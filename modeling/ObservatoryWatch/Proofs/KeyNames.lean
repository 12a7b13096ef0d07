import ObservatoryWatch.Proofs.NamedValue
import ObservatoryWatch.Redaction.Nested

/-!
Which keys hide their values, in texts and in nested values.

A nested value is hidden if its key contains one of the key words; in a text the whole key has to be
the name of a credential. So all that texts hide is hidden in nested values too, and what the two
differ in are the keys that contain a key word without being a credential's name.
-/

namespace ObservatoryWatch.Redaction

open Text

section Key

variable {key value : List Char} {before : Option Char}

/-- A name that begins a text reaches as far as its characters do. -/
theorem eq_of_naming {kept rest : List Char}
    (names : ∀ character ∈ key, isNameCharacter character = true) (naming : IsNaming kept)
    (whole : key ++ '=' :: value = kept ++ rest) :
    ∃ known ∈ credentialNames, key.map fold = known.toList := by
  rcases naming with ⟨known, member, written, assignment, named, rfl⟩
  have ends : ∀ character ∈ (assignment.characters ++ rest).head?,
      isNameCharacter character = false := by
    intro character head
    have some : assignment.characters ≠ [] := by simp [Assignment.characters]
    rw [List.head?_append_of_ne_nil _ some] at head
    cases name : isNameCharacter character with
    | false => rfl
    | true =>
        have loose := assignment.not_plain character (List.mem_of_mem_head? head)
        rw [isPlain_of_name name] at loose
        cases loose
  have sign : isNameCharacter '=' = false := by decide
  have left := (takeWhile_eq _ ('=' :: value) names (by simpa using sign)).1
  have right := (takeWhile_eq _ _ (mem_credentialName member named) ends).1
  rw [List.append_assoc] at whole
  rw [whole, right] at left
  exact ⟨known, member, left ▸ named⟩

theorem credential_free_of_key (names : ∀ character ∈ key, isNameCharacter character = true)
    (values : ∀ character ∈ value, isNameCharacter character = true)
    (unknown : ∀ known ∈ credentialNames, key.map fold ≠ known.toList) :
    Everywhere (fun before text => ¬ credentialPattern.Found before text) before
      (key ++ '=' :: value) := by
  have assigned : ∀ before, Everywhere (fun before text => ¬ credentialPattern.Found before text)
      before (['='] ++ value) :=
    fun _ => Everywhere.append_iff.mpr
      ⟨(NoStart.of_not_names (by decide)).not_found, credential_free_of_names values⟩
  cases key with
  | nil => exact assigned before
  | cons letter more =>
      constructor
      · rintro ⟨kept, gap, first, rest, whole, ⟨rfl, _, naming⟩, _⟩
        rw [List.append_nil] at whole
        rcases eq_of_naming names naming whole with ⟨known, member, named⟩
        exact unknown known member named
      · have word := NoStart.in_word (isWordCharacter_of_name (names letter List.mem_cons_self))
          fun character inside => names character (List.mem_cons_of_mem _ inside)
        exact Everywhere.append_iff.mpr ⟨word.not_found, assigned _⟩

variable (names : ∀ character ∈ key, isNameCharacter character = true)
include names

/-- The value of a key that is no credential's name is shown. -/
theorem redactChars_other_key (values : ∀ character ∈ value, isNameCharacter character = true)
    (unknown : ∀ known ∈ credentialNames, key.map fold ≠ known.toList) :
    redactChars (key ++ '=' :: value) = key ++ '=' :: value := by
  have unbroken : ∀ character ∈ key ++ '=' :: value,
      isBlank character = false ∧ character ≠ '/' := by
    intro character member
    rcases List.mem_append.mp member with inKey | inRest
    · exact ⟨isBlank_of_name (names _ inKey), ne_of_name (by decide) (names _ inKey)⟩
    · rcases List.mem_cons.mp inRest with rfl | inValue
      · decide
      · exact ⟨isBlank_of_name (values _ inValue), ne_of_name (by decide) (values _ inValue)⟩
  have webhooks : replace webhook _ = _ := webhook_describes.replaceFrom_of_free
    (webhook_free fun slash => (unbroken '/' slash).2 rfl)
  have bearers : replace bearer _ = _ := bearer_describes.replaceFrom_of_free
    (bearer_free fun character member => (unbroken character member).1)
  have credentials : replace credential _ = _ := credential_describes.replaceFrom_of_free
    (credential_free_of_key names values unknown)
  rw [redactChars, webhooks, bearers, credentials]

/-- At the beginning of a text the name of a credential is left where it is. -/
theorem stands_at_start : Leaves bearer (replace webhook []) key ∧
    Leaves credential (replace bearer (replace webhook [])) key := by
  have bearers : replace bearer key = key := bearer_describes.replaceFrom_of_free
    (bearer_free fun character member => isBlank_of_name (names character member))
  have credentials : replace credential key = key := credential_describes.replaceFrom_of_free
    (credential_free_of_names names)
  exact ⟨bearers, credentials⟩

end Key

/-! ## Both ways of hiding -/

theorem isSensitiveKey_of_credential {key : String}
    (named : String.ofList (key.toList.map fold) ∈ credentialNames) :
    isSensitiveKey key = true := by
  have names : ∀ name ∈ credentialNames,
      (keyWords.any fun word => occursIn word.toList name.toList) = true := by decide
  have sensitive := names _ named
  rw [String.toList_ofList] at sensitive
  exact sensitive

theorem nested_hidden_iff {key : String} :
    (∀ value, redactNested (.mapping [(key, value)]) =
        .mapping [(key, .text (String.ofList mark))]) ↔ isSensitiveKey key = true := by
  constructor
  · intro hidden
    have none := hidden (.scalar .null)
    by_contra insensitive
    simp [redactNested, redactMembers, toString, insensitive] at none
  · intro sensitive value
    simp [redactNested, redactMembers, toString, sensitive]

section Word

variable {key : String}
  (word : ∀ character ∈ key.toList, (character.isAlphanum || character == '_') = true)
include word

theorem redact_credential (named : String.ofList (key.toList.map fold) ∈ credentialNames)
    {value : String} (isWord : IsWord value) :
    redact (key ++ "=" ++ value) = redact "" ++ key ++ "=" ++ String.ofList mark := by
  have stands := stands_at_start fun character member =>
    isNameCharacter_of_alphanum (word character member)
  have nothing : EndsBlank "".toList := by decide
  have shown := redact_of_leaves nothing named (.inl rfl) stands.1 stands.2 isWord
  rw [String.empty_append] at shown
  exact shown

theorem redact_other_key (unknown : String.ofList (key.toList.map fold) ∉ credentialNames)
    {value : String} (isWord : IsWord value) :
    redact (key ++ "=" ++ value) = key ++ "=" ++ value := by
  have others : ∀ known ∈ credentialNames, key.toList.map fold ≠ known.toList := by
    intro known member same
    rw [same, String.ofList_toList] at unknown
    exact unknown member
  have shown := redactChars_other_key
    (fun character member => isNameCharacter_of_alphanum (word character member))
    isWord.isNameCharacter others
  apply String.toList_injective
  simpa [redact] using shown

theorem text_hidden_iff :
    (∀ first second, IsWord first → IsWord second →
      redact (key ++ "=" ++ first) = redact (key ++ "=" ++ second)) ↔
        String.ofList (key.toList.map fold) ∈ credentialNames := by
  constructor
  · intro same
    by_contra unknown
    have equal := same "a" "b" (by decide) (by decide)
    rw [redact_other_key word unknown (by decide),
      redact_other_key word unknown (by decide)] at equal
    exact append_ne_append _ equal
  · intro named first second firstWord secondWord
    rw [redact_credential word named firstWord, redact_credential word named secondWord]

end Word

/-- A nested value is hidden if its key contains a key word, a value in a text is hidden if its
whole key is the name of a credential, and every such name contains a key word. -/
theorem hiding_keys {key : String}
    (word : ∀ character ∈ key.toList, (character.isAlphanum || character == '_') = true) :
    ((∀ value, redactNested (.mapping [(key, value)]) =
        .mapping [(key, .text (String.ofList mark))]) ↔ isSensitiveKey key = true) ∧
      ((∀ first second, IsWord first → IsWord second →
        redact (key ++ "=" ++ first) = redact (key ++ "=" ++ second)) ↔
          String.ofList (key.toList.map fold) ∈ credentialNames) ∧
        (String.ofList (key.toList.map fold) ∈ credentialNames → isSensitiveKey key = true) :=
  ⟨nested_hidden_iff, text_hidden_iff word, isSensitiveKey_of_credential⟩

theorem hiding_keys_token :
    (∀ value, redactNested (.mapping [("Access_Token", value)]) =
        .mapping [("Access_Token", .text (String.ofList mark))]) ∧
      redact ("Access_Token" ++ "=" ++ "hunter2") = redact ("Access_Token" ++ "=" ++ "abc") := by
  have word : ∀ character ∈ "Access_Token".toList,
      (character.isAlphanum || character == '_') = true := List.all_eq_true.mp (by decide)
  have keys := hiding_keys word
  exact ⟨keys.1.mpr (by decide), keys.2.1.mpr (by decide) "hunter2" "abc" (by decide) (by decide)⟩

/-- Not every key that hides nested values hides values in texts. -/
theorem sensitive_key_shown_in_text :
    ¬ ∀ key first second : String,
      (∀ character ∈ key.toList, (character.isAlphanum || character == '_') = true) →
        (∀ value, redactNested (.mapping [(key, value)]) =
          .mapping [(key, .text (String.ofList mark))]) → IsWord first → IsWord second →
            redact (key ++ "=" ++ first) = redact (key ++ "=" ++ second) := by
  intro hidden
  have same := hidden "MATRIX_PASSWORD" "hunter2" "abc" (List.all_eq_true.mp (by decide))
    (nested_hidden_iff.mpr (by decide)) (by decide) (by decide)
  exact absurd same (by decide +kernel)

end ObservatoryWatch.Redaction
