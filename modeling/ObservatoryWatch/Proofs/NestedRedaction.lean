import ObservatoryWatch.Proofs.RedactionSettled
import ObservatoryWatch.Redaction.Nested

/-!
What redaction makes of nested values.

Two nested values are compared place by place: keys, lengths, kinds and scalars have to agree, while
texts and the values under sensitive keys may be related in any way. A value compares so with what
redaction makes of it, and it decides whether two values become the same. That redacting again
changes nothing follows from these two facts.
-/

namespace ObservatoryWatch.Redaction

variable {κ : Type} [ToString κ]

/-! ## Comparing place by place -/

section

variable (texts : String → String → Prop) (secrets : Nested κ → Nested κ → Prop)

mutual
/-- Two values of one shape, the same but for texts and for what is stored under sensitive keys. -/
inductive Alike : Nested κ → Nested κ → Prop where
  | scalar (value : Scalar) : Alike (.scalar value) (.scalar value)
  | text {one other : String} (related : texts one other) : Alike (.text one) (.text other)
  | list {ones others : List (Nested κ)} (items : AlikeItems ones others) :
      Alike (.list ones) (.list others)
  | tuple {ones others : List (Nested κ)} (items : AlikeItems ones others) :
      Alike (.tuple ones) (.tuple others)
  | mapping {ones others : List (κ × Nested κ)} (members : AlikeMembers ones others) :
      Alike (.mapping ones) (.mapping others)

inductive AlikeItems : List (Nested κ) → List (Nested κ) → Prop where
  | nil : AlikeItems [] []
  | cons {one other : Nested κ} {ones others : List (Nested κ)} (first : Alike one other)
      (rest : AlikeItems ones others) : AlikeItems (one :: ones) (other :: others)

inductive AlikeMembers : List (κ × Nested κ) → List (κ × Nested κ) → Prop where
  | nil : AlikeMembers [] []
  | secret {key : κ} {one other : Nested κ} {ones others : List (κ × Nested κ)}
      (sensitive : isSensitiveKey (toString key) = true) (related : secrets one other)
      (rest : AlikeMembers ones others) :
      AlikeMembers ((key, one) :: ones) ((key, other) :: others)
  | plain {key : κ} {one other : Nested κ} {ones others : List (κ × Nested κ)}
      (insensitive : isSensitiveKey (toString key) = false) (first : Alike one other)
      (rest : AlikeMembers ones others) :
      AlikeMembers ((key, one) :: ones) ((key, other) :: others)
end

end

/-! ## What is kept -/

def IsRedacted (original shown : String) : Prop := shown = redact original

def IsMarked (_ shown : Nested κ) : Prop := shown = .text (String.ofList mark)

mutual
/-- Texts are redacted, the mark stands for what is stored under sensitive keys, and all the rest is
kept. -/
theorem redactNested_alike :
    ∀ value : Nested κ, Alike IsRedacted IsMarked value (redactNested value)
  | .scalar value => .scalar value
  | .text _ => .text rfl
  | .list items => .list (redactItems_alike items)
  | .tuple items => .tuple (redactItems_alike items)
  | .mapping members => .mapping (redactMembers_alike members)

theorem redactItems_alike :
    ∀ items : List (Nested κ), AlikeItems IsRedacted IsMarked items (redactItems items)
  | [] => .nil
  | item :: rest => .cons (redactNested_alike item) (redactItems_alike rest)

theorem redactMembers_alike :
    ∀ members : List (κ × Nested κ),
      AlikeMembers IsRedacted IsMarked members (redactMembers members)
  | [] => .nil
  | (key, value) :: rest => by
      rw [redactMembers]
      cases sensitive : isSensitiveKey (toString key) with
      | true => exact .secret sensitive rfl (redactMembers_alike rest)
      | false => exact .plain sensitive (redactNested_alike value) (redactMembers_alike rest)
end

/-! ## What is hidden -/

mutual
/-- Values that differ only in secrets and in texts that become the same become the same. -/
theorem Alike.redactNested_eq {texts : String → String → Prop}
    {secrets : Nested κ → Nested κ → Prop}
    (same : ∀ one other, texts one other → redact one = redact other) {one other : Nested κ} :
    Alike texts secrets one other → redactNested one = redactNested other
  | .scalar _ => rfl
  | .text related => congrArg Nested.text (same _ _ related)
  | .list items => congrArg Nested.list (items.redactItems_eq same)
  | .tuple items => congrArg Nested.tuple (items.redactItems_eq same)
  | .mapping members => congrArg Nested.mapping (members.redactMembers_eq same)

theorem AlikeItems.redactItems_eq {texts : String → String → Prop}
    {secrets : Nested κ → Nested κ → Prop}
    (same : ∀ one other, texts one other → redact one = redact other)
    {ones others : List (Nested κ)} :
    AlikeItems texts secrets ones others → redactItems ones = redactItems others
  | .nil => rfl
  | .cons first rest => congrArg₂ List.cons (first.redactNested_eq same) (rest.redactItems_eq same)

theorem AlikeMembers.redactMembers_eq {texts : String → String → Prop}
    {secrets : Nested κ → Nested κ → Prop}
    (same : ∀ one other, texts one other → redact one = redact other)
    {ones others : List (κ × Nested κ)} :
    AlikeMembers texts secrets ones others → redactMembers ones = redactMembers others
  | .nil => rfl
  | .secret sensitive _ rest => by
      rw [redactMembers, redactMembers, if_pos sensitive, if_pos sensitive,
        rest.redactMembers_eq same]
  | .plain insensitive first rest => by
      rw [redactMembers, redactMembers, insensitive, first.redactNested_eq same,
        rest.redactMembers_eq same]
end

/-- Anything may be stored in either place. -/
def Whatever (_ _ : Nested κ) : Prop := True

/-- Two values that differ in nothing but what is stored under sensitive keys, at any depth. -/
def SameButSecrets : Nested κ → Nested κ → Prop := Alike (· = ·) Whatever

theorem SameButSecrets.redactNested_eq {one other : Nested κ} (same : SameButSecrets one other) :
    redactNested one = redactNested other :=
  Alike.redactNested_eq (fun _ _ => congrArg redact) same

def RedactedAlike (one other : String) : Prop := redact one = redact other

mutual
/-- Nothing is hidden but what is stored under sensitive keys, and secrets in texts. -/
theorem alike_of_redactNested_eq : ∀ {one other : Nested κ},
    redactNested one = redactNested other → Alike RedactedAlike Whatever one other
  | .scalar value, other, same => by
      cases other with
      | scalar =>
          rw [← Nested.scalar.inj same]
          exact .scalar value
      | _ => nomatch same
  | .text _, other, same => by
      cases other with
      | text => exact .text (Nested.text.inj same)
      | _ => nomatch same
  | .list _, other, same => by
      cases other with
      | list => exact .list (alikeItems_of_redactItems_eq (Nested.list.inj same))
      | _ => nomatch same
  | .tuple _, other, same => by
      cases other with
      | tuple => exact .tuple (alikeItems_of_redactItems_eq (Nested.tuple.inj same))
      | _ => nomatch same
  | .mapping _, other, same => by
      cases other with
      | mapping => exact .mapping (alikeMembers_of_redactMembers_eq (Nested.mapping.inj same))
      | _ => nomatch same

theorem alikeItems_of_redactItems_eq : ∀ {ones others : List (Nested κ)},
    redactItems ones = redactItems others → AlikeItems RedactedAlike Whatever ones others
  | [], [], _ => .nil
  | _ :: _, _ :: _, same =>
    .cons (alike_of_redactNested_eq (List.cons.inj same).1)
      (alikeItems_of_redactItems_eq (List.cons.inj same).2)

theorem alikeMembers_of_redactMembers_eq : ∀ {ones others : List (κ × Nested κ)},
    redactMembers ones = redactMembers others → AlikeMembers RedactedAlike Whatever ones others
  | [], [], _ => .nil
  | (key, one) :: ones, (otherKey, other) :: others, same => by
      rw [redactMembers, redactMembers] at same
      rcases List.cons.inj same with ⟨first, rest⟩
      rcases Prod.mk.inj first with ⟨rfl, value⟩
      cases sensitive : isSensitiveKey (toString key) with
      | true => exact .secret sensitive trivial (alikeMembers_of_redactMembers_eq rest)
      | false =>
          rw [sensitive] at value
          exact .plain sensitive (alike_of_redactNested_eq value)
            (alikeMembers_of_redactMembers_eq rest)
end

/-! ## Redacting again -/

theorem redact_redact (text : String) : redact (redact text) = redact text := by
  rw [redact, redact, String.toList_ofList, redactChars_redactChars]

theorem redactNested_redactNested (value : Nested κ) :
    redactNested (redactNested value) = redactNested value := by
  refine ((redactNested_alike value).redactNested_eq ?_).symm
  rintro original _ rfl
  exact (redact_redact original).symm

/-- Redaction keeps the shape of a nested value and everything in it but its texts and what is
stored under sensitive keys. Two values that differ in the latter only become the same; if two
values become the same, nothing but what is to be hidden tells them apart. Redacting again changes
nothing. -/
theorem nested_redaction_keeps_and_hides (value : Nested κ) :
    Alike IsRedacted IsMarked value (redactNested value) ∧
      (∀ other, SameButSecrets value other → redactNested value = redactNested other) ∧
      (∀ other, redactNested value = redactNested other →
        Alike RedactedAlike Whatever value other) ∧
      redactNested (redactNested value) = redactNested value :=
  ⟨redactNested_alike value, fun _ same => same.redactNested_eq,
    fun _ => alike_of_redactNested_eq, redactNested_redactNested value⟩

/-- An account of which something is told besides the password. -/
def account (password : Nested String) : Nested String :=
  .mapping [("user", .text "bot"), ("retries", .tuple [.scalar (.integer 2)]),
    ("login", .mapping [("Password", password)])]

theorem account_sameButSecrets (one other : Nested String) :
    SameButSecrets (account one) (account other) := by
  have login : AlikeMembers (· = ·) Whatever [("Password", one)] [("Password", other)] :=
    .secret (by decide) trivial .nil
  exact .mapping <| .plain (by decide) (.text rfl) <|
    .plain (by decide) (.tuple (.cons (.scalar _) .nil)) <|
    .plain (by decide) (.mapping login) .nil

/-- Whatever the password is, it is not told. -/
theorem nested_redaction_keeps_and_hides_password :
    redactNested (account (.text "hunter2")) = redactNested (account (.list [])) ∧
      Alike RedactedAlike Whatever (account (.text "hunter2")) (account (.list [])) := by
  rcases nested_redaction_keeps_and_hides (account (.text "hunter2")) with ⟨_, hides, tells, _⟩
  have same := hides (account (.list [])) (account_sameButSecrets _ _)
  exact ⟨same, tells _ same⟩

end ObservatoryWatch.Redaction
