import ObservatoryWatch.Proofs.RedactionSettled

/-!
The value after a credential's name, whatever text comes before the name.

A text that ends in a blank falls apart from a name that follows it, unless an opening at its end
waits for a secret: then the name itself is taken for the secret, and what comes after the name may
stay to be seen. Which of the two happens is settled before the value is reached, so the output
either never depends on the value or shows it.
-/

namespace ObservatoryWatch.Redaction

open Text

variable {recognise : Recogniser} {pattern : Pattern} {before : Option Char}

/-! ## Texts that end in a blank -/

/-- A text is empty or ends in a blank. -/
def EndsBlank (text : List Char) : Prop := ∀ character ∈ text.getLast?, isBlank character = true

instance (text : List Char) : Decidable (EndsBlank text) :=
  decidable_of_iff (text.getLast?.all isBlank = true) (by simp [EndsBlank, Option.all_eq_true])

theorem EndsBlank.of_append {early late : List Char} (ends : EndsBlank (early ++ late)) :
    EndsBlank late := by
  intro character last
  apply ends
  rw [List.getLast?_append, Option.mem_def.mp last]
  rfl

theorem EndsBlank.append {early late : List Char} (ends : EndsBlank late) (some : late ≠ []) :
    EndsBlank (early ++ late) := by
  rw [EndsBlank, List.getLast?_append, List.getLast?_eq_some_getLast some] at *
  exact ends

theorem EndsBlank.cons {character : Char} {text : List Char} (ends : EndsBlank text)
    (some : text ≠ []) : EndsBlank (character :: text) := by
  rw [← List.singleton_append]
  exact ends.append some

theorem EndsBlank.of_cons {character : Char} {text : List Char}
    (ends : EndsBlank (character :: text)) : EndsBlank text := by
  rw [← List.singleton_append] at ends
  exact ends.of_append

/-- A secret does not reach up to a blank. -/
theorem EndsBlank.beyond_ne_nil {early rest : List Char} {first : Char}
    (ends : EndsBlank (early ++ first :: rest)) (pattern : Pattern) :
    pattern.beyond (first :: rest) ≠ [] := by
  intro empty
  have whole := pattern.secret_append_beyond (first :: rest)
  rw [empty, List.append_nil] at whole
  cases last : (first :: rest).getLast? with
  | none => simp at last
  | some character =>
      have blank := ends.of_append character last
      have member := List.mem_of_getLast? last
      rw [← whole] at member
      rw [Pattern.not_isBlank_of_mem_secret member] at blank
      cases blank

/-- The pass over a text goes on after it as if the text had ended there. -/
def Parts (recognise : Recogniser) (before : Option Char) (front : List Char) (next : Char) :
    Prop :=
  ∀ tail, replaceFrom recognise before 0 (front ++ next :: tail) =
    replaceFrom recognise before 0 front ++
      replaceFrom recognise (front.getLast?.or before) 0 (next :: tail)

/-- At the end of a text an opening waits for a secret, and the next character begins one. -/
def Awaits (pattern : Pattern) (recognise : Recogniser) (before : Option Char) (front : List Char)
    (next : Char) : Prop :=
  ∃ start kept gap early, front = start ++ (kept ++ gap) ∧
    pattern.Opens (start.getLast?.or before) kept gap ∧ pattern.body next = true ∧
      ∀ tail, replaceFrom recognise before 0 (front ++ next :: tail) =
        early ++ (kept ++ pattern.mask) ++ replaceFrom recognise
          (pattern.secret (next :: tail)).getLast? 0 (pattern.beyond (next :: tail))

/-- What is found at the beginning of a text that goes on after a blank with a plain character. -/
theorem Pattern.Found.of_append {front tail : List Char} {next : Char} (ends : EndsBlank front)
    (some : front ≠ []) (plain : isPlain next = true)
    (found : pattern.Found before (front ++ next :: tail)) :
    pattern.Found before front ∨ ∃ kept gap, front = kept ++ gap ∧ pattern.Opens before kept gap ∧
      pattern.body next = true := by
  rcases found with ⟨kept, gap, first, rest, whole, opens, begins⟩
  rcases append_cons_cases whole with ⟨more, rfl, _⟩ | ⟨more, opening, back⟩
  · exact .inl ⟨kept, gap, first, more, rfl, opens, begins⟩
  · cases more with
    | nil =>
        rw [List.append_nil] at opening
        cases back
        exact .inr ⟨kept, gap, opening.symm, opens, begins⟩
    | cons character more =>
        cases back
        have last := List.getLast?_eq_some_getLast some
        have split := List.dropLast_append_getLast some
        rw [← split, List.append_assoc] at opening
        rw [pattern.not_plain_after_blank opens opening (ends _ last)] at plain
        cases plain

/-- How the pass over the beginning of a text goes does not depend on what comes after the text, as
long as that is nothing or begins with a given character. -/
def Passes (recognise : Recogniser) (before : Option Char) (next : Char)
    (taken shown front : List Char) : Prop :=
  ∀ tail, (∀ character ∈ tail.head?, character = next) →
    replaceFrom recognise before 0 (taken ++ (front ++ tail)) =
      shown ++ replaceFrom recognise (taken.getLast?.or before) 0 (front ++ tail)

section Passes

variable {next : Char} {taken shown front : List Char}

theorem Parts.after (passes : Passes recognise before next taken shown front)
    (parts : Parts recognise (taken.getLast?.or before) front next) :
    Parts recognise before (taken ++ front) next := by
  intro tail
  have alone := passes [] (by simp)
  rw [List.append_nil] at alone
  rw [List.append_assoc, passes _ (by simp), parts, alone, List.getLast?_append, Option.or_assoc,
    List.append_assoc]

theorem Awaits.after (passes : Passes recognise before next taken shown front)
    (awaits : Awaits pattern recognise (taken.getLast?.or before) front next) :
    Awaits pattern recognise before (taken ++ front) next := by
  rcases awaits with ⟨start, kept, gap, early, rfl, opens, begins, shows⟩
  refine ⟨taken ++ start, kept, gap, shown ++ early, ?_, ?_, begins, ?_⟩
  · rw [List.append_assoc]
  · rw [List.getLast?_append, Option.or_assoc]
    exact opens
  · intro tail
    rw [List.append_assoc, passes _ (by simp), shows]
    simp only [List.append_assoc]

theorem Passes.plain (describes : pattern.Describes recognise) {character : Char}
    (absent : ∀ tail, (∀ character ∈ tail.head?, character = next) →
      ¬ pattern.Found before (character :: (front ++ tail))) :
    Passes recognise before next [character] [character] front := by
  intro tail starts
  exact describes.replaceFrom_plain (absent tail starts)

theorem Passes.hidden (next : Char) (describes : pattern.Describes recognise)
    {kept gap rest : List Char} {first : Char} (opens : pattern.Opens before kept gap)
    (begins : pattern.body first = true)
    (goesOn : pattern.beyond (first :: rest) ≠ []) :
    Passes recognise before next (kept ++ gap ++ pattern.secret (first :: rest))
      (kept ++ pattern.mask) (pattern.beyond (first :: rest)) := by
  intro tail _
  have longer := Pattern.secret_beyond_append tail goesOn
  rw [List.cons_append] at longer
  rw [← List.append_assoc, Pattern.taken_append_beyond, List.append_assoc _ _ tail,
    List.cons_append, describes.replaceFrom_hidden _ opens begins, longer.1, longer.2,
    Pattern.getLast?_taken begins]

end Passes

theorem Pattern.Describes.parts_or_awaits (describes : pattern.Describes recognise)
    (before : Option Char) {front : List Char} {next : Char} (ends : EndsBlank front)
    (plain : isPlain next = true) :
    Parts recognise before front next ∨ Awaits pattern recognise before front next := by
  -- By the length, as a pass goes.
  induction size : front.length using Nat.strong_induction_on generalizing before front with
  | _ size induction =>
      subst size
      by_cases found : pattern.Found before front
      · rcases found with ⟨kept, gap, first, rest, rfl, opens, begins⟩
        have passes := Passes.hidden next describes opens begins (ends.beyond_ne_nil pattern)
        have shorter : (pattern.beyond (first :: rest)).length <
            (kept ++ gap ++ first :: rest).length := by
          have some := List.length_pos_iff.mpr (pattern.kept_ne_nil opens)
          rw [← pattern.taken_append_beyond]
          simp only [List.length_append]
          omega
        rw [← pattern.taken_append_beyond] at ends ⊢
        rcases induction _ shorter _ ends.of_append rfl with parts | awaits
        · exact .inl (parts.after passes)
        · exact .inr (awaits.after passes)
      · cases front with
        | nil => exact .inl fun tail => rfl
        | cons character front =>
            by_cases waits : ∃ kept gap, character :: front = kept ++ gap ∧
                pattern.Opens before kept gap ∧ pattern.body next = true
            · rcases waits with ⟨kept, gap, whole, opens, begins⟩
              right
              refine ⟨[], kept, gap, [], whole, opens, begins, ?_⟩
              intro tail
              rw [whole, describes.replaceFrom_hidden _ opens begins]
              rfl
            · have passes : Passes recognise before next [character] [character] front := by
                apply Passes.plain describes
                intro tail starts longer
                cases tail with
                | nil =>
                    rw [List.append_nil] at longer
                    exact found longer
                | cons start tail =>
                    rw [starts start rfl] at longer
                    rcases Pattern.Found.of_append ends (by simp) plain longer with short | long
                    · exact found short
                    · exact waits long
              have endsRest := ends.of_cons
              rcases induction front.length (by simp) _ endsRest rfl with parts | awaits
              · exact .inl (parts.after passes)
              · exact .inr (awaits.after passes)

theorem Pass.endsBlank {text shown : List Char} (pass : Pass pattern before text shown)
    (ends : EndsBlank text) : EndsBlank shown := by
  induction pass with
  | done => exact ends
  | @plain before character rest shown absent pass induction =>
      cases rest with
      | nil =>
          rw [pass.eq_nil_iff.mpr rfl]
          exact ends
      | cons next rest =>
          have later := induction ends.of_cons
          exact later.cons (mt pass.eq_nil_iff.mp (by simp))
  | @hidden before kept gap rest shown first opens begins pass induction =>
      have goesOn := ends.beyond_ne_nil pattern
      rw [← pattern.taken_append_beyond] at ends
      exact (induction ends.of_append).append (mt pass.eq_nil_iff.mp goesOn)

/-! ## Where nothing is found -/

theorem webhook_free {text : List Char} (slashless : '/' ∉ text) :
    Everywhere (fun before text => ¬ webhookPattern.Found before text) before text :=
  Everywhere.of_suffix fun _ _ suffix found =>
    slashless (suffix.subset (slash_mem_of_webhook found))

/-- A bearer token stands after a blank, and before the blank stands a letter. -/
theorem gap_of_bearer {text : List Char} (found : bearerPattern.Found before text) :
    ∃ early letter blank late, text = early ++ letter :: blank :: late ∧
      isNameCharacter letter = true ∧ isBlank blank = true := by
  rcases found with ⟨kept, gap, first, rest, rfl, opens, _⟩
  have some := bearerPattern.kept_ne_nil opens
  rcases opens with ⟨_, word, gapped, blanks⟩
  cases gap with
  | nil => exact absurd rfl gapped
  | cons blank gap =>
      refine ⟨kept.dropLast, kept.getLast some, blank, gap ++ first :: rest, ?_,
        mem_bearer word _ (List.getLast_mem some), blanks blank List.mem_cons_self⟩
      conv_lhs => rw [← List.dropLast_append_getLast some]
      simp

theorem bearer_free {text : List Char} (unbroken : ∀ character ∈ text, isBlank character = false) :
    Everywhere (fun before text => ¬ bearerPattern.Found before text) before text := by
  apply Everywhere.of_suffix
  intro before late suffix found
  rcases gap_of_bearer found with ⟨early, letter, blank, rest, rfl, _, isBlank⟩
  have inside := unbroken blank (suffix.subset (by simp))
  rw [isBlank] at inside
  cases inside

theorem bearer_free_around {early late : List Char}
    (unbroken : ∀ character ∈ early, isBlank character = false)
    (unlettered : ∀ character ∈ early.getLast?, isNameCharacter character = false)
    (tight : ∀ character ∈ late, isBlank character = false) :
    Everywhere (fun before text => ¬ bearerPattern.Found before text) before
      (early ++ ' ' :: late) := by
  apply Everywhere.of_suffix
  intro before text suffix found
  rcases suffix with ⟨lead, whole⟩
  rcases gap_of_bearer found with ⟨start, letter, blank, rest, rfl, isName, isBlank⟩
  have split : early ++ ' ' :: late = (lead ++ start ++ [letter]) ++ blank :: rest := by
    rw [← whole]
    simp
  rcases append_cons_cases split with ⟨more, rfl, _⟩ | ⟨more, opening, back⟩
  · have inside := unbroken blank (by simp)
    rw [isBlank] at inside
    cases inside
  · cases more with
    | nil =>
        have last := unlettered letter (by rw [← List.append_nil early, ← opening]; simp)
        rw [isName] at last
        cases last
    | cons character more =>
        cases back
        have inside := tight blank (by simp)
        rw [isBlank] at inside
        cases inside

theorem credential_free {text : List Char} (colon : ':' ∉ text) (equals : '=' ∉ text) :
    Everywhere (fun before text => ¬ credentialPattern.Found before text) before text := by
  apply Everywhere.of_suffix
  rintro before late suffix
    ⟨kept, gap, first, rest, rfl, ⟨rfl, _, name, _, written, assignment, _, rfl⟩, _⟩
  have sign := suffix.subset (a := assignment.sign) (by simp [Assignment.characters])
  rcases assignment.sign_eq with same | same
  · rw [same] at sign
    exact colon sign
  · rw [same] at sign
    exact equals sign

/-! ## The name -/

/-- A pass leaves a name where it is. -/
def Leaves (recognise : Recogniser) (front name : List Char) : Prop :=
  replace recognise (front ++ name) = replace recognise front ++ name

instance (recognise : Recogniser) (front name : List Char) :
    Decidable (Leaves recognise front name) :=
  inferInstanceAs (Decidable (_ = _))

section Name

variable {front more : List Char} {next : Char}

/-- A text whose end waits for a secret takes the name for it. -/
theorem not_leaves_of_awaits (awaits : Awaits pattern recognise none front next)
    (body : ∀ character ∈ next :: more, pattern.body character = true)
    (names : ∀ character ∈ next :: more, isNameCharacter character = true) :
    ¬ Leaves recognise front (next :: more) := by
  intro leaves
  rcases awaits with ⟨start, kept, gap, early, _, _, _, shows⟩
  have beyond := Pattern.beyond_eq_nil body
  have whole : replace recognise (front ++ next :: more) = _ := shows more
  rw [beyond, leaves] at whole
  have member : ']' ∈ next :: more := by
    have last := congrArg List.getLast? whole
    rw [List.getLast?_append, List.getLast?_eq_some_getLast (List.cons_ne_nil next more),
      Option.some_or, replaceFrom, List.append_nil, ← List.append_assoc,
      Pattern.getLast?_mask] at last
    rw [← Option.some.inj last]
    exact List.getLast_mem _
  exact ne_of_name (by decide) (names _ member) rfl

theorem Leaves.parts (describes : pattern.Describes recognise) (ends : EndsBlank front)
    (body : ∀ character ∈ next :: more, pattern.body character = true)
    (names : ∀ character ∈ next :: more, isNameCharacter character = true)
    (leaves : Leaves recognise front (next :: more)) : Parts recognise none front next := by
  have plain := isPlain_of_name (names next List.mem_cons_self)
  rcases describes.parts_or_awaits none ends plain with parts | awaits
  · exact parts
  · exact absurd leaves (not_leaves_of_awaits awaits body names)

theorem Parts.replace_eq (describes : pattern.Describes recognise)
    (parts : Parts recognise none front next)
    (free : ∀ before, Everywhere (fun before text => ¬ pattern.Found before text) before
      (next :: more)) :
    replace recognise (front ++ next :: more) = replace recognise front ++ next :: more := by
  rw [replace, parts, describes.replaceFrom_of_free (free _)]
  rfl

/-- A name in which nothing is found is left where it is unless a secret is waited for. -/
theorem awaits_of_not_leaves (describes : pattern.Describes recognise) (ends : EndsBlank front)
    (names : ∀ character ∈ next :: more, isNameCharacter character = true)
    (free : ∀ before, Everywhere (fun before text => ¬ pattern.Found before text) before
      (next :: more))
    (takes : ¬ Leaves recognise front (next :: more)) :
    Awaits pattern recognise none front next := by
  have plain := isPlain_of_name (names next List.mem_cons_self)
  rcases describes.parts_or_awaits none ends plain with parts | awaits
  · exact absurd (parts.replace_eq describes free) takes
  · exact awaits

end Name

/-! ## The passes before the last one -/

section Passes

variable {front more tail : List Char} {next : Char} (ends : EndsBlank front)
  (names : ∀ character ∈ next :: more, isNameCharacter character = true)
include ends names

/-- No webhook address waits for a secret at the end of a text that ends in a blank. -/
theorem webhook_stays (slashless : '/' ∉ tail) :
    replace webhook (front ++ (next :: more ++ tail)) =
      replace webhook front ++ (next :: more ++ tail) := by
  have plain := isPlain_of_name (names next List.mem_cons_self)
  rcases webhook_describes.parts_or_awaits none ends plain with parts | awaits
  · have free : '/' ∉ next :: more ++ tail := by
      rw [List.mem_append, not_or]
      exact ⟨fun slash => ne_of_name (by decide) (names _ slash) rfl, slashless⟩
    exact parts.replace_eq webhook_describes fun _ => webhook_free free
  · rcases awaits with ⟨start, kept, gap, early, rfl, ⟨rfl, host, _, number, _, _, rfl⟩, _, _⟩
    exact absurd (ends '/' (by simp)) (by decide)

theorem bearer_stays (leaves : Leaves bearer front (next :: more))
    (free : ∀ before, Everywhere (fun before text => ¬ bearerPattern.Found before text) before
      (next :: more ++ tail)) :
    replace bearer (front ++ (next :: more ++ tail)) =
      replace bearer front ++ (next :: more ++ tail) := by
  have parts := leaves.parts bearer_describes ends
    (fun character member => isTokenCharacter_of_name (names character member)) names
  exact parts.replace_eq bearer_describes free

theorem bearer_takes (takes : ¬ Leaves bearer front (next :: more)) :
    ∃ early letter, isNameCharacter letter = true ∧ ∀ tail,
      (∀ before, Everywhere (fun before text => ¬ bearerPattern.Found before text) before
        (bearerPattern.beyond (next :: more ++ tail))) →
        replace bearer (front ++ (next :: more ++ tail)) =
          early ++ [letter, ' '] ++ (mark ++ bearerPattern.beyond (next :: more ++ tail)) := by
  have unbroken : ∀ character ∈ next :: more, isBlank character = false :=
    fun character member => isBlank_of_name (names character member)
  rcases awaits_of_not_leaves bearer_describes ends names (fun _ => bearer_free unbroken) takes with
    ⟨start, kept, gap, early, _, opens, _, shows⟩
  have some := bearerPattern.kept_ne_nil opens
  refine ⟨early ++ kept.dropLast, kept.getLast some, mem_bearer opens.2.1 _ (List.getLast_mem some),
    ?_⟩
  intro tail free
  have whole := shows (more ++ tail)
  rw [← List.cons_append, bearer_describes.replaceFrom_of_free (free _)] at whole
  have split := List.dropLast_append_getLast some
  rw [replace, whole]
  conv_lhs => rw [← split]
  simp [Pattern.mask, bearerPattern]

end Passes

/-! ## The last pass -/

/-- After a word and a blank no credential waits for a value, so a mark that follows is left, and so
is what comes after the mark. -/
theorem credential_after_mark (early : List Char) {late : List Char} {letter : Char}
    (name : isNameCharacter letter = true)
    (free : Everywhere (fun before text => ¬ credentialPattern.Found before text) (some ']') late) :
    replace credential (early ++ [letter, ' '] ++ (mark ++ late)) =
      replace credential (early ++ [letter, ' ']) ++ (mark ++ late) := by
  have ends : EndsBlank (early ++ [letter, ' ']) := by
    have last : (early ++ [letter, ' ']).getLast? = some ' ' := by simp
    intro character member
    rw [last, Option.mem_some_iff] at member
    rw [← member]
    decide
  rcases credential_describes.parts_or_awaits none ends (show isPlain '[' = true by decide) with
    parts | awaits
  · have whole : ∀ before, Everywhere (fun before text => ¬ credentialPattern.Found before text)
        before (mark ++ late) :=
      fun _ => Everywhere.append_iff.mpr ⟨NoStart.mark.not_found, free⟩
    exact parts.replace_eq credential_describes whole
  · rcases awaits with ⟨start, kept, gap, shown, front,
      ⟨rfl, _, credentialName, _, written, assignment, _, rfl⟩, _, _⟩
    have member : assignment.sign ∈ assignment.characters := by simp [Assignment.characters]
    have loose := assignment.not_plain letter
    rw [isPlain_of_name name] at loose
    rw [List.append_nil, ← List.append_assoc] at front
    rcases List.append_eq_append_iff.mp front with ⟨lead, _, tail⟩ | ⟨lead, _, tail⟩
    · match lead with
      | [] =>
          rw [List.nil_append] at tail
          exact absurd (loose (by simp [← tail])) (by decide)
      | [_] =>
          rw [List.singleton_append, List.cons.injEq] at tail
          rw [← tail.2, List.mem_singleton] at member
          rcases assignment.sign_eq with colon | equals
          · exact absurd (member.symm.trans colon) (by decide)
          · exact absurd (member.symm.trans equals) (by decide)
      | _ :: _ :: lead =>
          have length := congrArg List.length tail
          have some := List.length_pos_of_mem member
          simp only [List.length_cons, List.length_append, List.length_nil] at length
          omega
    · exact absurd (loose (by simp [tail])) (by decide)

theorem body_of_names {text : List Char}
    (names : ∀ character ∈ text, isNameCharacter character = true) :
    ∀ character ∈ text, credentialPattern.body character = true := by
  intro character member
  change (!endsValue character) = true
  rw [endsValue_of_name (names character member)]
  rfl

section Credential

variable {front more : List Char} {next : Char} (ends : EndsBlank front)
  (names : ∀ character ∈ next :: more, isNameCharacter character = true)
include ends names

theorem credential_hides (leaves : Leaves credential front (next :: more)) {name : String}
    (member : name ∈ credentialNames) (named : (next :: more).map fold = name.toList)
    (assignment : Assignment) {value : List Char} (some : value ≠ [])
    (values : ∀ character ∈ value, isNameCharacter character = true) :
    replace credential (front ++ (next :: more ++ (assignment.characters ++ value))) =
      replace credential front ++ (next :: more ++ assignment.characters ++ mark) := by
  have parts := leaves.parts credential_describes ends (body_of_names names) names
  have start : wordMayBegin (front.getLast?.or none) = true := by
    cases last : front.getLast? with
    | none => rfl
    | some blank => simp [wordMayBegin, isWordCharacter_of_blank (ends blank last)]
  cases value with
  | nil => exact absurd rfl some
  | cons first rest =>
      have body := body_of_names values
      have opens : credentialPattern.Opens (front.getLast?.or none)
          (next :: more ++ assignment.characters) [] :=
        ⟨rfl, start, name, member, next :: more, assignment, named, rfl⟩
      have hidden := credential_describes.replaceFrom_hidden rest opens
        (body first List.mem_cons_self)
      have beyond := Pattern.beyond_eq_nil body
      rw [beyond, List.append_nil, List.append_assoc] at hidden
      rw [List.cons_append] at hidden ⊢
      rw [replace, parts, hidden]
      simp [replaceFrom, Pattern.mask, credentialPattern, replace]

theorem credential_takes (takes : ¬ Leaves credential front (next :: more)) :
    ∃ shown, ∀ tail,
      (∀ before, Everywhere (fun before text => ¬ credentialPattern.Found before text) before
        (credentialPattern.beyond (next :: more ++ tail))) →
        replace credential (front ++ (next :: more ++ tail)) =
          shown ++ credentialPattern.beyond (next :: more ++ tail) := by
  have unsigned : ∀ before, Everywhere
      (fun before text => ¬ credentialPattern.Found before text) before (next :: more) := by
    intro before
    apply credential_free
    · exact fun colon => ne_of_name (by decide) (names _ colon) rfl
    · exact fun equals => ne_of_name (by decide) (names _ equals) rfl
  rcases awaits_of_not_leaves credential_describes ends names unsigned takes with
    ⟨start, kept, gap, early, _, _, _, shows⟩
  refine ⟨early ++ (kept ++ credentialPattern.mask), ?_⟩
  intro tail free
  have whole := shows (more ++ tail)
  rw [← List.cons_append, credential_describes.replaceFrom_of_free (free _)] at whole
  exact whole

end Credential

/-! ## The value -/

namespace Assignment

/-- An equals sign alone. -/
def equals : Assignment where
  openQuote := []
  gap := []
  sign := '='
  secondGap := []
  valueQuote := []
  openQuote_isOptional := .inl rfl
  gap_blank := isBlank_of_mem_nil
  sign_eq := .inr rfl
  secondGap_blank := isBlank_of_mem_nil
  valueQuote_isOptional := .inl rfl

/-- A colon and a space. -/
def colon : Assignment where
  openQuote := []
  gap := []
  sign := ':'
  secondGap := [' ']
  valueQuote := []
  openQuote_isOptional := .inl rfl
  gap_blank := isBlank_of_mem_nil
  sign_eq := .inl rfl
  secondGap_blank := isBlank_of_mem_space
  valueQuote_isOptional := .inl rfl

end Assignment

section Value

variable {front more value : List Char} {next : Char} {assignment : Assignment}

theorem slash_notMem_assigned (values : ∀ character ∈ value, isNameCharacter character = true) :
    '/' ∉ assignment.characters ++ value := by
  intro slash
  rcases List.mem_append.mp slash with inAssignment | inValue
  · exact absurd (assignment.not_plain _ inAssignment) (by decide)
  · exact ne_of_name (by decide) (values _ inValue) rfl

theorem bearer_free_assigned (written : assignment = .equals ∨ assignment = .colon)
    (names : ∀ character ∈ next :: more, isNameCharacter character = true)
    (values : ∀ character ∈ value, isNameCharacter character = true) :
    Everywhere (fun before text => ¬ bearerPattern.Found before text) before
      (next :: more ++ (assignment.characters ++ value)) := by
  have unbroken : ∀ sign, isBlank sign = false → ∀ character ∈ next :: more ++ [sign],
      isBlank character = false := by
    intro sign notBlank character member
    rcases List.mem_append.mp member with inName | inSign
    · exact isBlank_of_name (names character inName)
    · rw [List.mem_singleton.mp inSign]
      exact notBlank
  have tight : ∀ character ∈ value, isBlank character = false :=
    fun character member => isBlank_of_name (values character member)
  rcases written with rfl | rfl
  · apply bearer_free
    intro character member
    have split : next :: more ++ (Assignment.equals.characters ++ value) =
        (next :: more ++ ['=']) ++ value := by simp [Assignment.characters, Assignment.equals]
    rw [split] at member
    rcases List.mem_append.mp member with early | late
    · exact unbroken '=' (by decide) character early
    · exact tight character late
  · have split : next :: more ++ (Assignment.colon.characters ++ value) =
        (next :: more ++ [':']) ++ ' ' :: value := by
      simp [Assignment.characters, Assignment.colon]
    rw [split]
    apply bearer_free_around (unbroken ':' (by decide)) _ tight
    intro character last
    rw [List.getLast?_append] at last
    cases last
    decide

theorem credential_free_of_names (values : ∀ character ∈ value, isNameCharacter character = true) :
    Everywhere (fun before text => ¬ credentialPattern.Found before text) before value := by
  apply credential_free
  · exact fun colon => ne_of_name (by decide) (values _ colon) rfl
  · exact fun equals => ne_of_name (by decide) (values _ equals) rfl

variable (ends : EndsBlank front)
  (names : ∀ character ∈ next :: more, isNameCharacter character = true)
include ends names

/-- After the first two passes a name that was left stands where it stood. -/
theorem bearer_webhook_stay (written : assignment = .equals ∨ assignment = .colon)
    (leaves : Leaves bearer (replace webhook front) (next :: more))
    (values : ∀ character ∈ value, isNameCharacter character = true) :
    replace bearer (replace webhook (front ++ (next :: more ++ (assignment.characters ++ value)))) =
      replace bearer (replace webhook front) ++
        (next :: more ++ (assignment.characters ++ value)) := by
  rw [webhook_stays ends names (slash_notMem_assigned values)]
  exact bearer_stays ((webhook_describes.pass_replace front).endsBlank ends) names leaves
    fun _ => bearer_free_assigned written names values

theorem redactChars_named (written : assignment = .equals ∨ assignment = .colon) {name : String}
    (member : name ∈ credentialNames) (named : (next :: more).map fold = name.toList)
    (leaves : Leaves bearer (replace webhook front) (next :: more))
    (credentialLeaves :
      Leaves credential (replace bearer (replace webhook front)) (next :: more))
    (some : value ≠ []) (values : ∀ character ∈ value, isNameCharacter character = true) :
    redactChars (front ++ (next :: more ++ (assignment.characters ++ value))) =
      redactChars front ++ (next :: more ++ assignment.characters ++ mark) := by
  have webhookEnds := (webhook_describes.pass_replace front).endsBlank ends
  have bearerEnds := (bearer_describes.pass_replace _).endsBlank webhookEnds
  rw [redactChars, bearer_webhook_stay ends names written leaves values]
  exact credential_hides bearerEnds names credentialLeaves member named assignment some values

/-- After the word bearer the name is taken for the token, and nothing hides the value. -/
theorem value_shown_of_bearer (written : assignment = .equals ∨ assignment = .colon)
    (takes : ¬ Leaves bearer (replace webhook front) (next :: more)) :
    ∃ shown, ∀ value, (∀ character ∈ value, isNameCharacter character = true) →
      redactChars (front ++ (next :: more ++ (assignment.characters ++ value))) =
        shown ++ value := by
  have webhookEnds := (webhook_describes.pass_replace front).endsBlank ends
  have body : ∀ character ∈ next :: more, bearerPattern.body character = true :=
    fun character member => isTokenCharacter_of_name (names character member)
  rcases bearer_takes webhookEnds names takes with ⟨early, letter, isName, shows⟩
  rcases written with rfl | rfl
  · refine ⟨replace credential (early ++ [letter, ' ']) ++ mark, ?_⟩
    intro value values
    have padding : ∀ character ∈ value.head?, bearerPattern.padding character = false := by
      intro character head
      change (character == '=') = false
      rw [beq_eq_false_iff_ne]
      exact ne_of_name (by decide) (values _ (List.mem_of_mem_head? head))
    have beyond : bearerPattern.beyond (next :: more ++ (Assignment.equals.characters ++ value)) =
        value := by
      rw [Pattern.beyond_append _ body (by simp [Assignment.characters, Assignment.equals]; decide)]
      exact (takeWhile_eq ['='] _ (List.all_eq_true.mp (by decide)) padding).2
    rw [redactChars, webhook_stays ends names (slash_notMem_assigned values), shows _ (by
      rw [beyond]
      exact fun _ => bearer_free fun _ member => isBlank_of_name (values _ member)), beyond,
      credential_after_mark _ isName (credential_free_of_names values), List.append_assoc]
  · refine ⟨replace credential (early ++ [letter, ' ']) ++ (mark ++ [':', ' ']), ?_⟩
    intro value values
    have beyond : bearerPattern.beyond (next :: more ++ (Assignment.colon.characters ++ value)) =
        [':'] ++ ' ' :: value := by
      rw [Pattern.beyond_append _ body (by simp [Assignment.characters, Assignment.colon]; decide)]
      rfl
    have colon : isBlank ':' = false ∧ isNameCharacter ':' = false := by decide
    have free : Everywhere (fun before text => ¬ credentialPattern.Found before text) (some ']')
        ([':', ' '] ++ value) := by
      apply Everywhere.append_iff.mpr
      refine ⟨?_, credential_free_of_names values⟩
      exact (NoStart.of_not_names (by decide)).not_found
    rw [redactChars, webhook_stays ends names (slash_notMem_assigned values), shows _ (by
      rw [beyond]
      exact fun _ => bearer_free_around (by simpa using colon.1) (by simpa using colon.2)
        fun _ member => isBlank_of_name (values _ member)), beyond]
    have marked := credential_after_mark early isName free
    simpa using marked

/-- After another credential that awaits its value the name is taken for that value; with the equals
sign the name's own value is part of it, after a colon and a space it is not. -/
theorem value_of_credential
    (leaves : Leaves bearer (replace webhook front) (next :: more))
    (takes : ¬ Leaves credential (replace bearer (replace webhook front)) (next :: more)) :
    (∃ shown, ∀ value, (∀ character ∈ value, isNameCharacter character = true) →
      redactChars (front ++ (next :: more ++ (Assignment.equals.characters ++ value))) = shown) ∧
      ∃ shown, ∀ value, (∀ character ∈ value, isNameCharacter character = true) →
        redactChars (front ++ (next :: more ++ (Assignment.colon.characters ++ value))) =
          shown ++ value := by
  have webhookEnds := (webhook_describes.pass_replace front).endsBlank ends
  have bearerEnds := (bearer_describes.pass_replace _).endsBlank webhookEnds
  rcases credential_takes bearerEnds names takes with ⟨shown, shows⟩
  constructor
  · refine ⟨shown, ?_⟩
    intro value values
    have body : ∀ character ∈ next :: more ++ (Assignment.equals.characters ++ value),
        credentialPattern.body character = true := by
      intro character member
      rcases List.mem_append.mp member with inName | inRest
      · exact body_of_names names character inName
      · rcases List.mem_append.mp inRest with sign | inValue
        · rw [show character = '=' from List.mem_singleton.mp sign]
          decide
        · exact body_of_names values character inValue
    have beyond := Pattern.beyond_eq_nil body
    rw [redactChars, bearer_webhook_stay ends names (.inl rfl) leaves values, shows _ (by
      rw [beyond]
      exact fun _ => trivial), beyond, List.append_nil]
  · refine ⟨shown ++ [' '], ?_⟩
    intro value values
    have beyond : credentialPattern.beyond
        (next :: more ++ (Assignment.colon.characters ++ value)) = ' ' :: value := by
      have body : ∀ character ∈ next :: more ++ [':'],
          credentialPattern.body character = true := by
        intro character member
        rcases List.mem_append.mp member with inName | sign
        · exact body_of_names names character inName
        · rw [List.mem_singleton.mp sign]
          decide
      have split : next :: more ++ (Assignment.colon.characters ++ value) =
          (next :: more ++ [':']) ++ ' ' :: value := by
        simp [Assignment.characters, Assignment.colon]
      rw [split, Pattern.beyond_append _ body (by simp; decide)]
      rfl
    have free : ∀ before,
        Everywhere (fun before text => ¬ credentialPattern.Found before text) before
          ([' '] ++ value) :=
      fun _ => Everywhere.append_iff.mpr
        ⟨(NoStart.of_not_names (by decide)).not_found, credential_free_of_names values⟩
    rw [redactChars, bearer_webhook_stay ends names (.inr rfl) leaves values, shows _ (by
      rw [beyond]
      exact free), beyond, List.append_assoc]
    rfl

end Value

/-! ## Texts -/

/-- A word of ASCII letters, digits and underscores. -/
def IsWord (text : String) : Prop :=
  text ≠ "" ∧ ∀ character ∈ text.toList, (character.isAlphanum || character == '_') = true

instance (text : String) : Decidable (IsWord text) :=
  decidable_of_iff (text ≠ "" ∧
      text.toList.all (fun character => character.isAlphanum || character == '_') = true)
    (by rw [List.all_eq_true, IsWord])

theorem IsWord.isNameCharacter {text : String} (word : IsWord text) :
    ∀ character ∈ text.toList, isNameCharacter character = true :=
  fun character member => isNameCharacter_of_alphanum (word.2 character member)

theorem redact_named (text name sign value : String) :
    redact (text ++ name ++ sign ++ value) = String.ofList
      (redactChars (text.toList ++ (name.toList ++ (sign.toList ++ value.toList)))) := by
  simp only [redact, String.toList_append, List.append_assoc]

theorem equals_toList : "=".toList = Assignment.equals.characters := by decide

theorem colon_toList : ": ".toList = Assignment.colon.characters := by decide

theorem exists_assignment {sign : String} (assigned : sign = "=" ∨ sign = ": ") :
    ∃ assignment : Assignment, (assignment = .equals ∨ assignment = .colon) ∧
      sign.toList = assignment.characters := by
  rcases assigned with rfl | rfl
  · exact ⟨.equals, .inl rfl, equals_toList⟩
  · exact ⟨.colon, .inr rfl, colon_toList⟩

theorem exists_cons_of_named {name : String}
    (named : String.ofList (name.toList.map fold) ∈ credentialNames) :
    ∃ next more, name.toList = next :: more ∧
      (∀ character ∈ next :: more, isNameCharacter character = true) ∧
        ∃ known ∈ credentialNames, (next :: more).map fold = known.toList := by
  have folded : name.toList.map fold = (String.ofList (name.toList.map fold)).toList :=
    String.toList_ofList.symm
  cases letters : name.toList with
  | nil =>
      rw [letters] at named
      exact absurd named (by decide)
  | cons next more =>
      rw [letters] at named folded
      exact ⟨next, more, rfl, mem_credentialName named folded, _, named, folded⟩

/-- The name is left where it stands by every pass that could take it for a secret in such a way
that its value stays behind. -/
def Stands (text name sign : String) : Prop :=
  Leaves bearer (replace webhook text.toList) name.toList ∧
    (sign = ": " → Leaves credential (replace bearer (replace webhook text.toList)) name.toList)

instance (text name sign : String) : Decidable (Stands text name sign) :=
  inferInstanceAs (Decidable (_ ∧ (_ → _)))

section Stands

variable {text name sign : String} (ends : EndsBlank text.toList)
  (named : String.ofList (name.toList.map fold) ∈ credentialNames)
  (assigned : sign = "=" ∨ sign = ": ")
include ends named assigned

/-- A name that all passes leave is shown with the mark as its value. -/
theorem redact_of_leaves (leaves : Leaves bearer (replace webhook text.toList) name.toList)
    (credentialLeaves :
      Leaves credential (replace bearer (replace webhook text.toList)) name.toList)
    {value : String} (word : IsWord value) :
    redact (text ++ name ++ sign ++ value) = redact text ++ name ++ sign ++ String.ofList mark := by
  rcases exists_cons_of_named named with ⟨next, more, letters, names, known, member, folded⟩
  rcases exists_assignment assigned with ⟨assignment, written, signEq⟩
  have some : value.toList ≠ [] := mt String.toList_eq_nil_iff.mp word.1
  rw [letters] at leaves credentialLeaves
  have shown := redactChars_named ends names written member folded leaves credentialLeaves some
    word.isNameCharacter
  rw [redact_named, letters, signEq, shown]
  apply String.toList_injective
  simp [redact, letters, signEq]

theorem redact_of_stands (stands : Stands text name sign) :
    ∃ shown, ∀ value, IsWord value → redact (text ++ name ++ sign ++ value) = shown := by
  rcases exists_cons_of_named named with ⟨next, more, letters, names, _⟩
  rcases stands with ⟨leaves, colonLeaves⟩
  by_cases credentialLeaves :
      Leaves credential (replace bearer (replace webhook text.toList)) name.toList
  · exact ⟨_, fun value word => redact_of_leaves ends named assigned leaves credentialLeaves word⟩
  · rcases assigned with rfl | rfl
    · rw [letters] at leaves credentialLeaves
      rcases (value_of_credential ends names leaves credentialLeaves).1 with ⟨shown, shows⟩
      refine ⟨String.ofList shown, ?_⟩
      intro value word
      rw [redact_named, letters, equals_toList, shows _ word.isNameCharacter]
    · exact absurd (colonLeaves rfl) credentialLeaves

theorem redact_of_not_stands (moved : ¬ Stands text name sign) :
    ∃ shown, ∀ value, IsWord value → redact (text ++ name ++ sign ++ value) = shown ++ value := by
  rcases exists_cons_of_named named with ⟨next, more, letters, names, _⟩
  by_cases leaves : Leaves bearer (replace webhook text.toList) name.toList
  · rw [Stands, not_and, Classical.not_imp] at moved
    rcases moved leaves with ⟨rfl, takes⟩
    rw [letters] at leaves takes
    rcases (value_of_credential ends names leaves takes).2 with ⟨shown, shows⟩
    refine ⟨String.ofList shown, ?_⟩
    intro value word
    rw [redact_named, letters, colon_toList, shows _ word.isNameCharacter, String.ofList_append,
      String.ofList_toList]
  · rcases exists_assignment assigned with ⟨assignment, written, signEq⟩
    rw [letters] at leaves
    rcases value_shown_of_bearer ends names written leaves with ⟨shown, shows⟩
    refine ⟨String.ofList shown, ?_⟩
    intro value word
    rw [redact_named, letters, signEq, shows _ word.isNameCharacter, String.ofList_append,
      String.ofList_toList]

end Stands

/-- A text that ends in a value tells two values apart. -/
theorem append_ne_append (shown : String) : shown ++ "a" ≠ shown ++ "b" := by
  intro equal
  have letters := congrArg String.toList equal
  rw [String.toList_append, String.toList_append] at letters
  exact absurd (List.append_cancel_left letters) (by decide)

/-- The output does not depend on the value of a named credential exactly if the name is left where
it stands. Otherwise the output ends in the value. -/
theorem named_value_hidden_iff {text name sign : String} (ends : EndsBlank text.toList)
    (named : String.ofList (name.toList.map fold) ∈ credentialNames)
    (assigned : sign = "=" ∨ sign = ": ") :
    (∀ first second, IsWord first → IsWord second →
      redact (text ++ name ++ sign ++ first) = redact (text ++ name ++ sign ++ second)) ↔
        Stands text name sign := by
  constructor
  · intro same
    by_contra moved
    rcases redact_of_not_stands ends named assigned moved with ⟨shown, shows⟩
    have equal := same "a" "b" (by decide) (by decide)
    rw [shows "a" (by decide), shows "b" (by decide)] at equal
    exact append_ne_append shown equal
  · intro stands first second firstWord secondWord
    rcases redact_of_stands ends named assigned stands with ⟨shown, shows⟩
    rw [shows first firstWord, shows second secondWord]

/-- After a blank or at the beginning of a text the value of a credential is hidden. -/
theorem named_value_hidden_after_word :
    redact ("login " ++ "Token" ++ "=" ++ "hunter2") =
      redact ("login " ++ "Token" ++ "=" ++ "abc") :=
  (named_value_hidden_iff (by decide) (by decide) (.inl rfl)).mpr (by decide +kernel) "hunter2"
    "abc" (by decide) (by decide)

/-- After the word bearer it is not. -/
theorem named_value_shown_after_bearer :
    ¬ ∀ text name sign first second : String, EndsBlank text.toList →
      String.ofList (name.toList.map fold) ∈ credentialNames → sign = "=" ∨ sign = ": " →
        IsWord first → IsWord second →
          redact (text ++ name ++ sign ++ first) = redact (text ++ name ++ sign ++ second) := by
  intro hidden
  have same := hidden "bearer " "token" "=" "hunter2" "abc" (by decide) (by decide) (.inl rfl)
    (by decide) (by decide)
  exact absurd same (by decide +kernel)

end ObservatoryWatch.Redaction
