import ObservatoryWatch.Proofs.SecretPatterns

/-!
Redaction settles a text: what was redacted is not changed by redacting it again.

Each pass hides all that its own pattern describes. What has to be shown is that neither the mark,
nor the surroundings that are kept, nor the end of a secret bring about something to hide that was
not there before, be it for the same pattern or for one of the patterns passed over earlier.
-/

namespace ObservatoryWatch.Redaction

open Text

variable {pattern other : Pattern} {before lead : Option Char}

/-! ## Findings next to a mark -/

namespace Pattern

/-- An opening does not reach over a bracket. -/
theorem Opens.bracket {kept gap early late : List Char} (opens : pattern.Opens before kept gap)
    (whole : kept ++ gap = early ++ '[' :: late) : False := by
  apply pattern.bracket_notMem opens
  rw [whole]
  simp

/-- What is found before a bracket is found whatever comes in place of the bracket, provided that it
may be a secret. -/
theorem Found.of_bracket {same later rest : List Char} {first : Char}
    (begins : pattern.body first = true) (found : pattern.Found before (same ++ '[' :: later)) :
    pattern.Found before (same ++ first :: rest) := by
  rcases found with ⟨kept, gap, character, tail, whole, opens, inside⟩
  rcases append_cons_cases whole with ⟨more, rfl, _⟩ | ⟨more, opening, back⟩
  · exact ⟨kept, gap, character, more ++ first :: rest, by simp, opens, inside⟩
  · cases more with
    | nil =>
        rw [List.append_nil] at opening
        exact ⟨kept, gap, first, rest, by rw [opening], opens, begins⟩
    | cons bracket more =>
        cases back
        exact (Opens.bracket opens opening).elim

/-- If no secret begins with a bracket, what is found ends before the mask. -/
theorem Found.of_mask {front later : List Char} (bracket : other.body '[' = false)
    (found : other.Found before (front ++ (pattern.mask ++ later))) : other.Found before front := by
  rcases found with ⟨kept, gap, first, rest, whole, opens, begins⟩
  rcases append_cons_cases whole with ⟨more, rfl, _⟩ | ⟨more, opening, back⟩
  · exact ⟨kept, gap, first, more, rfl, opens, begins⟩
  · rw [mask_eq, List.append_assoc, List.cons_append] at back
    generalize "REDACTED]".toList ++ later = letters at back
    rcases append_cons_cases back with ⟨blanks, filler, _⟩ | ⟨blanks, rfl, late⟩
    · have blank := pattern.filler_blank first (by rw [filler]; simp)
      rw [other.body_of_blank first blank] at begins
      cases begins
    · cases blanks with
      | nil =>
          cases late
          rw [bracket] at begins
          cases begins
      | cons character blanks =>
          cases late
          rw [← List.append_assoc] at opening
          exact (Opens.bracket opens opening).elim

/-- The end of a secret after which a character comes that a secret might begin with. -/
theorem getLast?_secret {text rest : List Char} {character : Char}
    (goesOn : pattern.beyond text = character :: rest) (inside : pattern.body character = true) :
    ∃ last, (pattern.secret text).getLast? = some last ∧ pattern.padding last = true := by
  cases padded : (text.dropWhile pattern.body).takeWhile pattern.padding with
  | nil =>
      have all := List.takeWhile_append_dropWhile (p := pattern.padding)
        (l := text.dropWhile pattern.body)
      rw [padded, List.nil_append] at all
      rw [beyond, all] at goesOn
      have outside := List.head?_dropWhile_not pattern.body text
      rw [goesOn] at outside
      simp [inside] at outside
  | cons first padding =>
      have some : first :: padding ≠ [] := by simp
      refine ⟨(first :: padding).getLast some, ?_, ?_⟩
      · rw [secret, padded, List.getLast?_append, List.getLast?_eq_some_getLast some]
        rfl
      · have inside := List.getLast_mem some
        exact List.all_eq_true.mp (padded ▸ List.all_takeWhile) _ inside

end Pattern

namespace Pass

/-- What is found in the text that is shown was found in the text itself. -/
theorem found_text {text shown : List Char} (pass : Pass pattern before text shown)
    (bracket : other.body '[' = false) (found : other.Found lead shown) :
    other.Found lead text := by
  rcases pass.alike with rfl | ⟨same, kept, gap, first, rest, later, _, _, _, rfl, rfl⟩
  · exact found
  · exact (Pattern.Found.of_mask bracket found).append _

/-- The same for the pattern of the pass itself, whose secrets may begin with a bracket if nothing
but the secret is hidden. -/
theorem found_text_self {text shown : List Char} (pass : Pass pattern before text shown)
    (gapless : ∀ {before kept gap}, pattern.Opens before kept gap → gap = [])
    (filler : pattern.filler = []) (found : pattern.Found lead shown) :
    pattern.Found lead text := by
  rcases pass.alike with rfl | ⟨same, kept, gap, first, rest, later, _, opens, begins, rfl, rfl⟩
  · exact found
  · rw [gapless opens]
    rw [Pattern.mask, filler] at found
    exact Pattern.Found.of_bracket begins found

end Pass

/-! ## Patterns that do not disturb each other -/

/-- Hiding what a pattern describes brings about nothing that another pattern describes. -/
structure Harmless (pattern other : Pattern) : Prop where
  body_bracket : other.body '[' = false
  head_notMem {before kept gap character} :
    other.Opens before kept gap → kept.head? = some character → character ∉ pattern.mask
  inner {before kept gap lead} : pattern.Opens before kept gap →
    Everywhere (fun before text => ¬ other.Found before text) lead kept
  /-- The bracket that ends the mark allows nothing that the end of the secret does not allow. -/
  edge {first rest} : pattern.body first = true →
    other.Found (some ']') (pattern.beyond (first :: rest)) →
      other.Found (pattern.secret (first :: rest)).getLast? (pattern.beyond (first :: rest))

namespace Harmless

variable (harmless : Harmless pattern other)
include harmless

/-- Nothing is found at or in the mask. -/
theorem mask_free {later : List Char}
    (rest : Everywhere (fun before text => ¬ other.Found before text) (some ']') later) :
    Everywhere (fun before text => ¬ other.Found before text) lead (pattern.mask ++ later) := by
  have absent : ∀ character ∈ pattern.mask, ∀ before text,
      ¬ other.Found before (character :: text) := by
    rintro character member before text ⟨kept, gap, first, tail, whole, opens, _⟩
    cases kept with
    | nil => exact other.kept_ne_nil opens rfl
    | cons start kept =>
        cases whole
        exact harmless.head_notMem opens rfl member
  have last : pattern.mask.getLast? = some ']' := Pattern.getLast?_mask []
  apply Everywhere.append_iff.mpr
  rw [last]
  refine ⟨?_, rest⟩
  generalize pattern.mask = characters at absent
  induction characters generalizing lead with
  | nil => trivial
  | cons character characters induction =>
      exact ⟨absent character List.mem_cons_self _ _,
        induction fun other member => absent other (List.mem_cons_of_mem _ member)⟩

theorem clears {text shown : List Char} (pass : Pass pattern before text shown)
    (everywhere : Everywhere (fun before text => other.Found before text →
      pattern.Found before text) before text)
    (here : other.Found lead text → pattern.Found before text) :
    Everywhere (fun before text => ¬ other.Found before text) lead shown := by
  induction pass generalizing lead with
  | done => trivial
  | @plain before character rest shown absent pass induction =>
      constructor
      · intro found
        apply absent
        apply here
        exact (Pass.plain absent pass).found_text harmless.body_bracket found
      · apply induction everywhere.2
        intro found
        cases rest with
        | nil => exact absurd found Pattern.not_found_nil
        | cons next rest => exact everywhere.2.1 found
  | @hidden before kept gap rest shown first opens begins pass induction =>
      rw [List.append_assoc]
      apply Everywhere.append_iff.mpr
      constructor
      · apply (harmless.inner opens).mono
        intro before character text absent found
        exact absent (Pattern.Found.of_mask harmless.body_bracket found)
      · apply harmless.mask_free
        have later := everywhere.beyond begins
        apply induction later
        intro found
        cases beyond : pattern.beyond (first :: rest) with
        | nil =>
            rw [beyond] at found
            exact absurd found Pattern.not_found_nil
        | cons next late =>
            have edge := harmless.edge begins found
            rw [beyond] at later edge
            exact later.1 edge

end Harmless

/-! ### Webhook addresses -/

theorem webhook_head {kept gap : List Char} {character : Char}
    (opens : webhookPattern.Opens before kept gap) (head : kept.head? = some character) :
    character = 'h' := by
  rcases opens with ⟨_, host, member, number, _, _, rfl⟩
  have hosts : ∀ host ∈ webhookHosts, host.toList.head? = some 'h' := by decide
  rw [List.append_assoc, List.head?_append, hosts host member] at head
  exact (Option.some.inj head).symm

theorem slash_mem_of_webhook {text : List Char} (found : webhookPattern.Found before text) :
    '/' ∈ text := by
  rcases found with ⟨kept, gap, first, rest, rfl, ⟨_, host, _, number, _, _, rfl⟩, _⟩
  simp

/-- An address has all its slashes before its number, save the last one, with which it ends. -/
theorem not_webhook_in_address {address text : List Char} (isAddress : IsWebhookAddress address)
    (suffix : text <:+ address) : ¬ webhookPattern.Found before text := by
  rintro ⟨kept, gap, first, rest, rfl, ⟨rfl, otherAddress⟩, _⟩
  rcases suffix with ⟨early, whole⟩
  have slashes : ∀ {address}, IsWebhookAddress address → address.count '/' = 6 := by
    rintro address ⟨host, member, number, _, digits, rfl⟩
    have hosts : ∀ host ∈ webhookHosts, host.toList.count '/' = 5 := by decide
    have none : number.count '/' = 0 := by
      rw [List.count_eq_zero]
      intro slash
      exact ne_of_decimalDigit (by decide) (digits '/' slash) rfl
    rw [List.count_append, List.count_append, hosts host member, none]
    rfl
  have last : '/' ∈ first :: rest := by
    rcases isAddress with ⟨host, _, number, _, _, rfl⟩
    have ends := congrArg List.getLast? whole
    rw [← List.append_assoc, List.getLast?_append, List.getLast?_append] at ends
    cases final : (first :: rest).getLast? with
    | none => simp at final
    | some slash =>
        rw [final, List.getLast?_concat, Option.some_or, Option.some.injEq] at ends
        rw [← ends]
        exact List.mem_of_getLast? final
  have count := congrArg (List.count '/') whole
  rw [slashes isAddress, List.count_append, List.count_append, List.append_nil,
    slashes otherAddress] at count
  have some := List.count_pos_iff.mpr last
  omega

theorem webhook_harmless (inner : ∀ {before kept gap lead}, pattern.Opens before kept gap →
      Everywhere (fun before text => ¬ webhookPattern.Found before text) lead kept)
    (filler : 'h' ∉ pattern.mask) : Harmless pattern webhookPattern where
  body_bracket := by decide
  head_notMem := by
    intro before kept gap character opens head
    rw [webhook_head opens head]
    exact filler
  inner := inner
  edge := fun _ found => found

theorem webhook_harmless_webhook : Harmless webhookPattern webhookPattern := by
  apply webhook_harmless _ (by decide)
  intro before kept gap lead opens
  exact Everywhere.of_suffix fun _ _ suffix => not_webhook_in_address opens.2 suffix

theorem bearer_harmless_webhook : Harmless bearerPattern webhookPattern := by
  apply webhook_harmless _ (by decide)
  intro before kept gap lead opens
  apply Everywhere.of_suffix
  intro before text suffix found
  have slash := suffix.subset (slash_mem_of_webhook found)
  exact ne_of_name (by decide) (mem_bearer opens.2.1 _ slash) rfl

theorem credential_harmless_webhook : Harmless credentialPattern webhookPattern := by
  apply webhook_harmless _ (by decide)
  rintro before kept gap lead ⟨_, _, name, member, written, assignment, named, rfl⟩
  apply Everywhere.of_suffix
  intro before text suffix found
  rcases List.mem_append.mp (suffix.subset (slash_mem_of_webhook found)) with slash | slash
  · exact ne_of_name (by decide) (mem_credentialName member named _ slash) rfl
  · have loose := assignment.not_plain _ slash
    revert loose
    decide

/-! ### Bearer tokens -/

theorem bearer_head {kept gap : List Char} {character : Char}
    (opens : bearerPattern.Opens before kept gap) (head : kept.head? = some character) :
    fold character = 'b' := by
  have word := congrArg List.head? opens.2.1
  rw [List.head?_map, head] at word
  exact Option.some.inj word

theorem head_of_bearer {text : List Char} (found : bearerPattern.Found before text) :
    ∃ character rest, text = character :: rest ∧ fold character = 'b' := by
  rcases found with ⟨kept, gap, first, tail, rfl, opens, _⟩
  cases kept with
  | nil => exact absurd rfl (bearerPattern.kept_ne_nil opens)
  | cons character kept => exact ⟨character, _, rfl, bearer_head opens rfl⟩

theorem isNameCharacter_of_fold {character letter : Char} (folded : fold character = letter)
    (name : (letter.isAlphanum || letter == '_') = true) : isNameCharacter character = true := by
  rw [isNameCharacter, folded]
  exact name

theorem bearer_harmless (letter : pattern.mask.all (fun character => fold character != 'b') = true)
    (inner : ∀ {before kept gap lead}, pattern.Opens before kept gap →
      Everywhere (fun before text => ¬ bearerPattern.Found before text) lead kept)
    (body : ∀ character, isNameCharacter character = true → pattern.body character = true)
    (padding : ∀ character, pattern.padding character = true → isWordCharacter character = false) :
    Harmless pattern bearerPattern where
  body_bracket := by decide
  head_notMem := by
    intro before kept gap character opens head member
    exact bne_iff_ne.mp (List.all_eq_true.mp letter character member) (bearer_head opens head)
  inner := inner
  edge := by
    intro first rest begins found
    rcases head_of_bearer found with ⟨character, late, goesOn, folded⟩
    have inside := body character (isNameCharacter_of_fold folded (by decide))
    rcases Pattern.getLast?_secret goesOn inside with ⟨last, ended, padded⟩
    rcases found with ⟨kept, gap, second, tail, whole, opens, token⟩
    rw [ended]
    refine ⟨kept, gap, second, tail, whole, ⟨?_, opens.2⟩, token⟩
    simp [wordMayBegin, padding last padded]

theorem bearer_harmless_bearer : Harmless bearerPattern bearerPattern := by
  apply bearer_harmless (by decide)
  · intro before kept gap lead opens
    apply Everywhere.of_suffix
    rintro before text suffix ⟨word, blanks, first, rest, rfl, ⟨_, _, some, blank⟩, _⟩
    cases blanks with
    | nil => exact some rfl
    | cons character blanks =>
        have inKept := suffix.subset (a := character) (by simp)
        have name := isBlank_of_name (mem_bearer opens.2.1 _ inKept)
        rw [blank character List.mem_cons_self] at name
        cases name
  · exact fun _ => isTokenCharacter_of_name
  · intro character padded
    rw [beq_iff_eq.mp padded]
    decide +kernel

theorem credential_harmless_bearer : Harmless credentialPattern bearerPattern := by
  apply bearer_harmless (by decide)
  · rintro before kept gap lead ⟨_, _, name, member, written, assignment, named, rfl⟩
    apply Everywhere.of_suffix
    intro before text suffix found
    rcases head_of_bearer found with ⟨character, rest, rfl, folded⟩
    rcases List.mem_append.mp (suffix.subset List.mem_cons_self) with inName | inAssignment
    · have names : ∀ name ∈ credentialNames, 'b' ∉ name.toList := by decide
      apply names name member
      rw [← named, ← folded]
      exact List.mem_map_of_mem inName
    · have loose := assignment.not_plain _ inAssignment
      rw [isPlain_of_name (isNameCharacter_of_fold folded (by decide))] at loose
      cases loose
  · intro character name
    change (!endsValue character) = true
    rw [endsValue_of_name name]
    rfl
  · intro character padded
    cases padded

/-! ## Values that are marks already -/

/-- What is found is hidden already. -/
def Pattern.Marked (pattern : Pattern) (before : Option Char) (text : List Char) : Prop :=
  ∀ kept gap first rest, text = kept ++ gap ++ first :: rest → pattern.Opens before kept gap →
    pattern.body first = true → gap ++ pattern.secret (first :: rest) = pattern.mask

/-- Where all is hidden already nothing changes. -/
theorem Pass.eq_of_marked {text shown : List Char} (pass : Pass pattern before text shown)
    (marked : Everywhere pattern.Marked before text) : shown = text := by
  induction pass with
  | done => rfl
  | plain _ _ induction => rw [induction marked.2]
  | @hidden before kept gap rest shown first opens begins _ induction =>
      have hidden : gap ++ pattern.secret (first :: rest) = pattern.mask := by
        cases kept with
        | nil => exact absurd rfl (pattern.kept_ne_nil opens)
        | cons character kept => exact marked.1 _ gap first rest rfl opens begins
      rw [induction (marked.beyond begins), ← hidden, List.append_assoc, List.append_assoc,
        Pattern.secret_append_beyond, ← List.append_assoc]

theorem Pattern.Marked.of_not_found {text : List Char} (absent : ¬ pattern.Found before text) :
    pattern.Marked before text := by
  intro kept gap first rest whole opens begins
  exact absurd ⟨kept, gap, first, rest, whole, opens, begins⟩ absent

/-! ### Named credentials -/

/-- The name of a credential may start with a character. -/
def mayStart (before : Option Char) (character : Char) : Bool :=
  wordMayBegin before &&
    credentialNames.any fun name => name.toList.head? == some (fold character)

theorem mayStart_of_found {character : Char} {rest : List Char}
    (found : credentialPattern.Found before (character :: rest)) :
    mayStart before character = true := by
  rcases found with ⟨kept, gap, first, tail, whole,
    ⟨rfl, begins, name, member, written, assignment, named, rfl⟩, _⟩
  rw [mayStart, begins, Bool.true_and, List.any_eq_true]
  refine ⟨name, member, ?_⟩
  cases written with
  | nil =>
      have some : ∀ name ∈ credentialNames, name.toList ≠ [] := by decide
      exact absurd named.symm (some name member)
  | cons letter written =>
      cases whole
      rw [← named]
      simp

theorem mayStart_in_word {word : Char} (inside : isWordCharacter word = true) (character : Char) :
    mayStart (some word) character = false := by
  simp [mayStart, wordMayBegin, inside]

theorem mayStart_of_not_name {character : Char} (outside : isNameCharacter character = false) :
    mayStart before character = false := by
  cases starts : mayStart before character with
  | false => rfl
  | true =>
      simp only [mayStart, Bool.and_eq_true, List.any_eq_true, beq_iff_eq] at starts
      rcases starts with ⟨_, name, member, head⟩
      have heads : credentialNames.all (fun name =>
          name.toList.head?.all fun letter => letter.isAlphanum || letter == '_') = true := by
        decide
      have name := List.all_eq_true.mp heads name member
      rw [head, Option.all_some] at name
      rw [isNameCharacter, name] at outside
      cases outside

/-- No name of a credential starts in a text. -/
def NoStart (before : Option Char) (text : List Char) : Prop :=
  Everywhere (fun before text => text.head?.any (mayStart before) = false) before text

theorem NoStart.in_word {word : Char} (inside : isWordCharacter word = true) {text : List Char}
    (names : ∀ character ∈ text, isNameCharacter character = true) : NoStart (some word) text := by
  induction text generalizing word with
  | nil => trivial
  | cons character text induction =>
      refine ⟨mayStart_in_word inside character, induction ?_ ?_⟩
      · exact isWordCharacter_of_name (names character List.mem_cons_self)
      · exact fun other member => names other (List.mem_cons_of_mem _ member)

theorem NoStart.of_not_names {text : List Char}
    (others : text.all (fun character => !isNameCharacter character) = true) :
    NoStart before text := by
  apply Everywhere.of_suffix
  intro before late suffix
  cases late with
  | nil => rfl
  | cons character late =>
      have other := List.all_eq_true.mp others character (suffix.subset List.mem_cons_self)
      exact mayStart_of_not_name (by simpa using other)

/-- After its first letter a name of a credential and its assignment start no other name. -/
theorem NoStart.of_naming {letter : Char} {kept : List Char} (naming : IsNaming (letter :: kept)) :
    NoStart (some letter) kept := by
  rcases naming with ⟨name, member, written, assignment, named, whole⟩
  cases written with
  | nil =>
      have some : ∀ name ∈ credentialNames, name.toList ≠ [] := by decide
      exact absurd named.symm (some name member)
  | cons first written =>
      cases whole
      have names := mem_credentialName member named
      apply Everywhere.append_iff.mpr
      constructor
      · have word := NoStart.in_word (isWordCharacter_of_name (names letter List.mem_cons_self))
          fun character inside => names character (List.mem_cons_of_mem _ inside)
        exact word.mono fun _ _ _ closed => closed
      · apply NoStart.of_not_names
        rw [List.all_eq_true]
        intro character inside
        cases isName : isNameCharacter character with
        | false => rfl
        | true =>
            have loose := assignment.not_plain character inside
            rw [isPlain_of_name isName] at loose
            cases loose

theorem NoStart.not_found {front back : List Char} (closed : NoStart before front) :
    Everywhere (fun before text => ¬ credentialPattern.Found before (text ++ back)) before
      front := by
  apply Everywhere.mono _ closed
  intro before character rest outside found
  have starts := mayStart_of_found found
  rw [show mayStart before character = false from outside] at starts
  cases starts

theorem NoStart.marked {front back : List Char} (closed : NoStart before front) :
    Everywhere (fun before text => credentialPattern.Marked before (text ++ back)) before front :=
  closed.not_found.mono fun _ _ _ => Pattern.Marked.of_not_found

/-- In the mark no name of a credential starts. -/
theorem NoStart.mark : NoStart before mark :=
  ⟨mayStart_of_not_name (by decide), by decide +kernel⟩

/-- An opening is all that a recogniser may keep of a text. -/
theorem Pattern.Describes.kept_unique {recognise : Recogniser}
    (describes : pattern.Describes recognise) {kept gap more moreGap rest tail : List Char}
    {first next : Char} (same : kept ++ gap ++ first :: rest = more ++ moreGap ++ next :: tail)
    (opens : pattern.Opens before kept gap) (begins : pattern.body first = true)
    (opensMore : pattern.Opens before more moreGap) (beginsMore : pattern.body next = true) :
    kept = more := by
  have found := (describes before _ _).mpr ⟨kept, gap, first, rest, rfl, opens, begins, rfl⟩
  have foundMore := (describes before _ _).mpr
    ⟨more, moreGap, next, tail, rfl, opensMore, beginsMore, rfl⟩
  rw [same, foundMore] at found
  have shown := congrArg Finding.shown (Option.some.inj found)
  exact (List.append_cancel_right shown).symm

/-- The value of a credential that was hidden is the mark. -/
theorem secret_mark {late : List Char}
    (ends : ∀ character ∈ late.head?, endsValue character = true) :
    credentialPattern.secret (mark ++ late) = mark := by
  rw [Pattern.secret_of_unpadded rfl]
  apply (takeWhile_eq _ _ (List.all_eq_true.mp (by decide)) _).1
  intro character head
  change (!endsValue character) = false
  rw [ends character head]
  rfl

theorem endsValue_beyond (text : List Char) :
    ∀ character ∈ (credentialPattern.beyond text).head?, endsValue character = true := by
  intro character head
  rw [Pattern.beyond_of_unpadded rfl] at head
  have outside := List.head?_dropWhile_not credentialPattern.body text
  rw [head] at outside
  simpa [credentialPattern] using outside

/-- A value that is the mark is the only thing to be found about the name before it. -/
theorem marked_naming {letter : Char} {kept shown : List Char} (naming : IsNaming (letter :: kept))
    (ends : ∀ character ∈ shown.head?, endsValue character = true)
    (rest : Everywhere credentialPattern.Marked (some ']') shown) :
    Everywhere credentialPattern.Marked lead (letter :: (kept ++ (mark ++ shown))) := by
  constructor
  · rintro otherKept gap next tail whole ⟨rfl, start, otherNaming⟩ inside
    have split : letter :: kept ++ [] ++ '[' :: ("REDACTED]".toList ++ shown) =
        otherKept ++ [] ++ next :: tail := by
      rw [← whole, List.append_nil, List.cons_append]
      rfl
    have same : letter :: kept = otherKept :=
      credential_describes.kept_unique split ⟨rfl, start, naming⟩ (by decide)
        ⟨rfl, start, otherNaming⟩ inside
    rw [List.append_nil, ← same] at whole
    have value : mark ++ shown = next :: tail := (List.append_right_inj (letter :: kept)).mp whole
    rw [← value, secret_mark ends]
    rfl
  · apply Everywhere.append_iff.mpr
    refine ⟨(NoStart.of_naming naming).marked, Everywhere.append_iff.mpr ⟨?_, rest⟩⟩
    exact NoStart.mark.marked

/-- What is found after hiding has the mark as its value. -/
theorem credential_marks {text shown : List Char} (pass : Pass credentialPattern before text shown)
    (here : lead = before ∨ ∀ character ∈ text.head?, endsValue character = true) :
    Everywhere credentialPattern.Marked lead shown := by
  induction pass generalizing lead with
  | done => trivial
  | @plain before character rest shown absent pass induction =>
      refine ⟨?_, induction (.inl rfl)⟩
      apply Pattern.Marked.of_not_found
      intro found
      have inText := (Pass.plain absent pass).found_text_self (fun opens => opens.1) rfl found
      rcases here with rfl | ends
      · exact absent inText
      · have outside : isNameCharacter character = false := by
          cases name : isNameCharacter character with
          | false => rfl
          | true =>
              have goesOn := ends character rfl
              rw [endsValue_of_name name] at goesOn
              cases goesOn
        have starts := mayStart_of_found inText
        rw [mayStart_of_not_name outside] at starts
        cases starts
  | @hidden before kept gap rest shown first opens begins pass induction =>
      rcases opens with ⟨rfl, start, naming⟩
      have value := endsValue_beyond (first :: rest)
      cases kept with
      | nil => exact absurd rfl (credentialPattern.kept_ne_nil ⟨rfl, start, naming⟩)
      | cons letter kept =>
          rw [List.append_assoc]
          apply marked_naming naming
          · rw [pass.head?_eq]
            exact value
          · exact induction (.inr value)

/-! ## Redacted texts -/

/-- Nothing is found anywhere in a text. -/
def Pattern.Free (pattern : Pattern) (text : List Char) : Prop :=
  Everywhere (fun before text => ¬ pattern.Found before text) none text

theorem Harmless.self_free {recognise : Recogniser} (harmless : Harmless pattern pattern)
    (describes : pattern.Describes recognise) (text : List Char) :
    pattern.Free (replace recognise text) :=
  harmless.clears (describes.pass_replace text) (Everywhere.of_suffix fun _ _ _ found => found) id

theorem Harmless.stays_free {recognise : Recogniser} (harmless : Harmless pattern other)
    (describes : pattern.Describes recognise) {text : List Char} (free : other.Free text) :
    other.Free (replace recognise text) := by
  apply harmless.clears (describes.pass_replace text)
  · exact free.mono fun _ _ _ absent found => absurd found absent
  · intro found
    cases text with
    | nil => exact absurd found Pattern.not_found_nil
    | cons character rest => exact absurd found free.1

theorem redactChars_webhook_free (text : List Char) : webhookPattern.Free (redactChars text) := by
  apply credential_harmless_webhook.stays_free credential_describes
  apply bearer_harmless_webhook.stays_free bearer_describes
  exact webhook_harmless_webhook.self_free webhook_describes text

theorem redactChars_bearer_free (text : List Char) : bearerPattern.Free (redactChars text) := by
  apply credential_harmless_bearer.stays_free credential_describes
  exact bearer_harmless_bearer.self_free bearer_describes _

theorem redactChars_marked (text : List Char) :
    Everywhere credentialPattern.Marked none (redactChars text) :=
  credential_marks (credential_describes.pass_replace _) (.inl rfl)

theorem redactChars_redactChars (text : List Char) :
    redactChars (redactChars text) = redactChars text := by
  have webhooks : replace webhook _ = _ :=
    webhook_describes.replaceFrom_of_free (redactChars_webhook_free text)
  have bearers : replace bearer _ = _ :=
    bearer_describes.replaceFrom_of_free (redactChars_bearer_free text)
  have credentials := (credential_describes.pass_replace (redactChars text)).eq_of_marked
    (redactChars_marked text)
  rw [redactChars, webhooks, bearers, credentials]

/-- The recogniser finds nothing at any place of a text in which its pattern is found nowhere. -/
theorem Pattern.Describes.none_of_free {recognise : Recogniser}
    (describes : pattern.Describes recognise) {front back : List Char}
    (free : pattern.Free (front ++ back)) : recognise front.getLast? back = none := by
  rw [describes.eq_none_iff]
  cases back with
  | nil => exact Pattern.not_found_nil
  | cons character back =>
      have here := free.at_split (by simp)
      rwa [Option.or_none] at here

/-- A redacted text holds no webhook address and no bearer token to be hidden, every credential
named in it has the mark as its value, and redacting it again changes nothing. -/
theorem redact_settled (text : String) :
    (∀ front back, (redact text).toList = front ++ back →
      webhook front.getLast? back = none ∧ bearer front.getLast? back = none ∧
        ∀ found, credential front.getLast? back = some found →
          ∃ kept rest, IsNaming kept ∧ back = kept ++ mark ++ rest ∧
            found = ⟨kept ++ mark, (kept ++ mark).length⟩) ∧
      redact (redact text) = redact text := by
  constructor
  · intro front back split
    rw [redact, String.toList_ofList] at split
    have webhooks := redactChars_webhook_free text.toList
    have bearers := redactChars_bearer_free text.toList
    have marked := redactChars_marked text.toList
    rw [split] at webhooks bearers marked
    refine ⟨webhook_describes.none_of_free webhooks, bearer_describes.none_of_free bearers, ?_⟩
    intro found answer
    rcases (credential_describes _ _ _).mp answer with
      ⟨kept, gap, first, rest, rfl, opens, begins, rfl⟩
    have here := marked.at_split (by simp)
    rw [Option.or_none] at here
    have hidden := here kept gap first rest rfl opens begins
    rcases opens with ⟨rfl, _, naming⟩
    have value : credentialPattern.secret (first :: rest) = mark := hidden
    refine ⟨kept, credentialPattern.beyond (first :: rest), naming, ?_, ?_⟩
    · rw [← value, List.append_nil, List.append_assoc, Pattern.secret_append_beyond]
    · rw [value, List.append_nil]
      rfl
  · rw [redact, redact, String.toList_ofList, redactChars_redactChars]

end ObservatoryWatch.Redaction
