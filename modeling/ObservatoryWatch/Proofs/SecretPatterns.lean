import ObservatoryWatch.Proofs.CharacterClasses
import ObservatoryWatch.Proofs.Pattern

/-!
The three kinds of secret as patterns, and that each recogniser finds what its pattern describes.

A recogniser reads as far as it can and never tries again, so what it finds could differ from what
the description admits. It does not: no host and no name begins with another one, and no secret
begins with a character that could still belong to the opening.
-/

namespace ObservatoryWatch.Redaction

open Text

/-! ## Reading -/

/-- A text begins with one of the names at most if no name begins with another one. -/
theorem findSome?_iff_exists {Answer : Type} (names : List String) (text : List Char)
    {ask : String → Option Answer}
    (apart : ∀ left ∈ names, ∀ right ∈ names, left.toList <+: right.toList → left = right)
    (starts : ∀ name answer, ask name = some answer → name.toList <+: text) (answer : Answer) :
    names.findSome? ask = some answer ↔ ∃ name ∈ names, ask name = some answer := by
  constructor
  · intro found
    exact List.exists_of_findSome?_eq_some found
  · rintro ⟨name, member, asked⟩
    cases found : names.findSome? ask with
    | none => simp [List.findSome?_eq_none_iff.mp found name member] at asked
    | some other =>
        rcases List.exists_of_findSome?_eq_some found with ⟨second, secondMember, secondAsked⟩
        have same : second = name := by
          rcases List.prefix_or_prefix_of_prefix (starts second other secondAsked)
            (starts name answer asked) with first | first
          · exact apart second secondMember name member first
          · exact (apart name member second secondMember first).symm
        rw [← asked, ← secondAsked, same]

theorem takeWhile_eq {inside : Char → Bool} (early late : List Char)
    (all : ∀ character ∈ early, inside character = true)
    (ends : ∀ character ∈ late.head?, inside character = false) :
    (early ++ late).takeWhile inside = early ∧ (early ++ late).dropWhile inside = late := by
  have stops : late.takeWhile inside = [] ∧ late.dropWhile inside = late := by
    cases late with
    | nil => exact ⟨rfl, rfl⟩
    | cons character late =>
        have outside := ends character rfl
        simp [outside]
  rw [List.takeWhile_append_of_pos all, List.dropWhile_append_of_pos all, stops.1, stops.2,
    List.append_nil]
  exact ⟨rfl, rfl⟩

theorem mem_takeWhile {inside : Char → Bool} {text : List Char} {character : Char}
    (member : character ∈ text.takeWhile inside) : inside character = true :=
  List.all_eq_true.mp List.all_takeWhile character member

theorem afterFolded?_iff {word text rest : List Char} :
    afterFolded? word text = some rest ↔
      ∃ written, text = written ++ rest ∧ written.map fold = word := by
  unfold afterFolded?
  constructor
  · intro read
    split at read
    next same =>
      cases read
      exact ⟨text.take word.length, (List.take_append_drop _ text).symm, same⟩
    next => cases read
  · rintro ⟨written, rfl, rfl⟩
    rw [List.length_map, List.take_left, List.drop_left, if_pos rfl]

theorem isNameCharacter_of_folded {word written : List Char} (folded : written.map fold = word)
    (named : word.all (fun character => character.isAlphanum || character == '_') = true) :
    ∀ character ∈ written, isNameCharacter character = true := by
  intro character member
  have inWord : fold character ∈ word := by
    rw [← folded]
    exact List.mem_map_of_mem member
  exact List.all_eq_true.mp named _ inWord

/-- After a blank of an opening comes nothing plain if all that is plain comes before all blanks. -/
theorem not_plain_after {word tail early late : List Char} {blank character : Char}
    (unbroken : ∀ character ∈ word, isBlank character = false)
    (loose : ∀ character ∈ tail, isPlain character = false)
    (whole : word ++ tail = early ++ blank :: character :: late) (isBlank : isBlank blank = true) :
    isPlain character = false := by
  apply loose
  rcases List.append_eq_append_iff.mp whole with ⟨more, -, rest⟩ | ⟨more, wordEq, rest⟩
  · rw [rest]
    simp
  · cases more with
    | nil =>
        rw [← List.nil_append tail, ← rest]
        simp
    | cons first more =>
        rw [List.cons_append, List.cons.injEq] at rest
        have inside := unbroken blank (by rw [wordEq, rest.1]; simp)
        rw [isBlank] at inside
        cases inside

theorem isPlain_of_blank {character : Char} (blank : isBlank character = true) :
    isPlain character = false := by
  simp [isPlain, blank]

theorem finding_eq {kept alike secret : List Char} (text : List Char)
    (size : alike.length = kept.length) :
    finding (kept ++ text) alike secret = ⟨kept ++ mark, (kept ++ secret).length⟩ := by
  rw [finding, size, List.take_left, List.length_append]

theorem Pattern.beyond_append {pattern : Pattern} {early : List Char} (late : List Char)
    (body : ∀ character ∈ early, pattern.body character = true)
    (ends : ∀ character ∈ late.head?, pattern.body character = false) :
    pattern.beyond (early ++ late) = late.dropWhile pattern.padding := by
  rw [beyond, (takeWhile_eq _ _ body ends).2]

theorem Pattern.beyond_eq_nil {pattern : Pattern} {text : List Char}
    (body : ∀ character ∈ text, pattern.body character = true) : pattern.beyond text = [] := by
  have beyond := Pattern.beyond_append [] body (by simp)
  rw [List.append_nil, List.dropWhile_nil] at beyond
  exact beyond

namespace Pattern

variable {pattern : Pattern} (unpadded : pattern.padding = fun _ => false)
include unpadded

theorem secret_of_unpadded (text : List Char) :
    pattern.secret text = text.takeWhile pattern.body := by
  have none : ∀ late : List Char, late.takeWhile (fun _ => false) = [] := by
    intro late
    cases late with
    | nil => rfl
    | cons => rfl
  rw [secret, unpadded, none, List.append_nil]

theorem beyond_of_unpadded (text : List Char) :
    pattern.beyond text = text.dropWhile pattern.body := by
  have all : ∀ late : List Char, late.dropWhile (fun _ => false) = late := by
    intro late
    cases late with
    | nil => rfl
    | cons => rfl
  rw [beyond, unpadded, all]

end Pattern

theorem isPlain_of_name {character : Char} (name : isNameCharacter character = true) :
    isPlain character = true := by
  simp only [isPlain, isQuote, isBlank_of_name name, Bool.not_false, Bool.true_and, bne_iff_ne,
    Bool.and_eq_true, Bool.not_eq_true', Bool.or_eq_false_iff, beq_eq_false_iff_ne]
  exact ⟨⟨⟨ne_of_name (by decide) name, ne_of_name (by decide) name⟩,
    ne_of_name (by decide) name⟩, ne_of_name (by decide) name⟩

/-! ## Webhook addresses -/

/-- A webhook address up to and with the slash after the number. -/
def IsWebhookAddress (characters : List Char) : Prop :=
  ∃ host ∈ webhookHosts, ∃ number, number ≠ [] ∧
    (∀ character ∈ number, isDecimalDigit character = true) ∧
      characters = host.toList ++ number ++ ['/']

theorem mem_webhookAddress {characters : List Char} (address : IsWebhookAddress characters)
    {character : Char} (member : character ∈ characters) :
    isBlank character = false ∧ character ≠ '[' := by
  rcases address with ⟨host, hostMember, number, _, digits, rfl⟩
  have hosts : webhookHosts.all (fun host =>
      host.toList.all fun character => !isBlank character && character != '[') = true := by decide
  rw [List.mem_append, List.mem_append] at member
  rcases member with (inHost | inNumber) | slash
  · have inside := List.all_eq_true.mp (List.all_eq_true.mp hosts host hostMember) character inHost
    simpa using inside
  · have digit := digits character inNumber
    exact ⟨isBlank_of_decimalDigit digit, ne_of_decimalDigit (by decide) digit⟩
  · rw [List.mem_singleton.mp slash]
    decide

def webhookPattern : Pattern where
  Opens _ kept gap := gap = [] ∧ IsWebhookAddress kept
  filler := []
  body := isWebhookCharacter
  padding _ := false
  kept_ne_nil := by
    rintro _ kept gap ⟨_, host, _, number, _, _, rfl⟩
    simp
  bracket_notMem := by
    rintro _ kept gap ⟨rfl, address⟩ member
    rw [List.append_nil] at member
    exact (mem_webhookAddress address member).2 rfl
  not_plain_after_blank := by
    rintro _ kept gap early late blank character ⟨rfl, address⟩ whole isBlank
    exact not_plain_after (fun _ member => (mem_webhookAddress address member).1) (by simp) whole
      isBlank
  filler_blank := isBlank_of_mem_nil
  body_of_blank := fun _ => isWebhookCharacter_of_blank
  padding_of_blank _ _ := rfl

/-- What the recogniser does about one of the hosts. -/
def webhookAt (characters : List Char) (host : String) : Option Finding :=
  if host.toList.isPrefixOf characters then
    let (number, afterNumber) := (characters.drop host.length).span isDecimalDigit
    match afterNumber with
    | '/' :: rest =>
      let secret := rest.takeWhile isWebhookCharacter
      if number.isEmpty || secret.isEmpty then none
      else some (finding characters (host.toList ++ number ++ ['/']) secret)
    | _ => none
  else none

theorem webhook_eq (before : Option Char) (text : List Char) :
    webhook before text = webhookHosts.findSome? (webhookAt text) := rfl

theorem prefix_of_webhookAt {text : List Char} {host : String} {finding : Finding}
    (found : webhookAt text host = some finding) : host.toList <+: text := by
  unfold webhookAt at found
  split at found
  next starts => exact List.isPrefixOf_iff_prefix.mp starts
  next => cases found

theorem webhookAt_iff {text : List Char} {host : String} {found : Finding} :
    webhookAt text host = some found ↔
      ∃ number first rest, number ≠ [] ∧
        (∀ character ∈ number, isDecimalDigit character = true) ∧
          text = host.toList ++ number ++ ['/'] ++ first :: rest ∧
            isWebhookCharacter first = true ∧
              found = finding text (host.toList ++ number ++ ['/'])
                ((first :: rest).takeWhile isWebhookCharacter) := by
  constructor
  · intro found
    rcases prefix_of_webhookAt found with ⟨afterHost, rfl⟩
    simp only [webhookAt, List.isPrefixOf_iff_prefix.mpr (List.prefix_append _ _), if_true,
      ← String.length_toList, List.drop_left, List.span_eq_takeWhile_dropWhile] at found
    split at found
    next rest afterNumber =>
      split at found
      next => cases found
      next some =>
        cases found
        rw [Bool.or_eq_true, List.isEmpty_iff, List.isEmpty_iff, not_or] at some
        cases rest with
        | nil => exact absurd rfl some.2
        | cons first rest =>
            cases begins : isWebhookCharacter first with
            | false => simp [begins] at some
            | true =>
                have split := List.takeWhile_append_dropWhile (p := isDecimalDigit) (l := afterHost)
                refine ⟨afterHost.takeWhile isDecimalDigit, first, rest, some.1,
                  fun _ => mem_takeWhile, ?_, begins, rfl⟩
                rw [afterNumber] at split
                rw [List.append_assoc, List.append_assoc, List.singleton_append, split]
    next => cases found
  · rintro ⟨number, first, rest, some, digits, rfl, begins, rfl⟩
    have slash : isDecimalDigit '/' = false := by decide
    have read := takeWhile_eq _ ('/' :: first :: rest) digits (by simpa using slash)
    have starts : host.toList.isPrefixOf
        (host.toList ++ number ++ ['/'] ++ first :: rest) = true :=
      List.isPrefixOf_iff_prefix.mpr ⟨number ++ '/' :: first :: rest, by simp⟩
    have after : (host.toList ++ number ++ ['/'] ++ first :: rest).drop host.length =
        number ++ '/' :: first :: rest := by
      rw [← String.length_toList, List.append_assoc, List.append_assoc, List.drop_left]
      simp
    simp only [webhookAt, starts, if_true, after, List.span_eq_takeWhile_dropWhile, read.1, read.2]
    rw [if_neg]
    simp [some, begins]

theorem webhook_describes : webhookPattern.Describes webhook := by
  intro before text found
  have read := findSome?_iff_exists webhookHosts text (by decide)
    (fun _ _ => prefix_of_webhookAt) found
  rw [webhook_eq, read]
  constructor
  · rintro ⟨host, member, found⟩
    rcases webhookAt_iff.mp found with ⟨number, first, rest, some, digits, rfl, begins, rfl⟩
    refine ⟨host.toList ++ number ++ ['/'], [], first, rest, by simp,
      ⟨rfl, host, member, number, some, digits, rfl⟩, begins, ?_⟩
    rw [finding_eq _ rfl, Pattern.secret_of_unpadded rfl, List.append_nil]
    rfl
  · rintro ⟨kept, gap, first, rest, rfl, ⟨rfl, host, member, number, some, digits, rfl⟩, begins,
      rfl⟩
    rw [List.append_nil]
    refine ⟨host, member, webhookAt_iff.mpr ⟨number, first, rest, some, digits, rfl, begins, ?_⟩⟩
    rw [finding_eq _ rfl, Pattern.secret_of_unpadded rfl]
    rfl

/-! ## Bearer tokens -/

theorem mem_bearer {written : List Char} (word : written.map fold = "bearer".toList) :
    ∀ character ∈ written, isNameCharacter character = true :=
  isNameCharacter_of_folded word (by decide)

def bearerPattern : Pattern where
  Opens before kept gap := wordMayBegin before = true ∧ kept.map fold = "bearer".toList ∧
    gap ≠ [] ∧ ∀ character ∈ gap, isBlank character = true
  filler := [' ']
  body := isTokenCharacter
  padding character := character == '='
  kept_ne_nil := by
    rintro _ kept gap ⟨_, word, _⟩ rfl
    cases word
  bracket_notMem := by
    rintro _ kept gap ⟨_, word, _, blanks⟩ member
    rcases List.mem_append.mp member with inWord | inGap
    · exact ne_of_name (by decide) (mem_bearer word _ inWord) rfl
    · exact ne_of_blank (by decide) (blanks _ inGap) rfl
  not_plain_after_blank := by
    rintro _ kept gap early late blank character ⟨_, word, _, blanks⟩ whole isBlank
    apply not_plain_after _ (fun _ member => isPlain_of_blank (blanks _ member)) whole isBlank
    intro character member
    exact isBlank_of_name (mem_bearer word character member)
  filler_blank := isBlank_of_mem_space
  body_of_blank := fun _ => isTokenCharacter_of_blank
  padding_of_blank := by
    intro character blank
    simpa using ne_of_blank (by decide) blank

/-- What the recogniser says of a text that begins with the word. -/
theorem bearer_eq {before : Option Char} (begins : wordMayBegin before = true)
    {written afterWord : List Char} (word : written.map fold = "bearer".toList) :
    bearer before (written ++ afterWord) =
      if (afterWord.takeWhile isBlank).isEmpty ||
          ((afterWord.dropWhile isBlank).takeWhile isTokenCharacter).isEmpty then none
      else some ⟨written ++ bearerPattern.mask, (written ++ afterWord.takeWhile isBlank ++
        bearerPattern.secret (afterWord.dropWhile isBlank)).length⟩ := by
  have size : written.length = 6 := by
    rw [← List.length_map (f := fold), word]
    rfl
  have read : afterFolded? "bearer".toList (written ++ afterWord) = some afterWord :=
    afterFolded?_iff.mpr ⟨written, rfl, word⟩
  have shown : (written ++ afterWord).take 6 = written := by
    rw [← size, List.take_left]
  simp only [bearer, begins, if_true, read, Option.bind_some, List.span_eq_takeWhile_dropWhile,
    shown, List.length_append, size, Pattern.secret, Nat.add_assoc]
  rfl

theorem bearer_describes : bearerPattern.Describes bearer := by
  intro before text found
  constructor
  · intro answer
    cases begins : wordMayBegin before with
    | false => simp [bearer, begins] at answer
    | true =>
        have read := answer
        rw [bearer, if_pos begins] at read
        rcases Option.bind_eq_some_iff.mp read with ⟨afterWord, read, _⟩
        rcases afterFolded?_iff.mp read with ⟨written, rfl, word⟩
        rw [bearer_eq begins word] at answer
        split at answer
        next => cases answer
        next some =>
          rw [Bool.or_eq_true, List.isEmpty_iff, List.isEmpty_iff, not_or] at some
          have gapped := List.takeWhile_append_dropWhile (p := isBlank) (l := afterWord)
          cases afterGap : afterWord.dropWhile isBlank with
          | nil => simp [afterGap] at some
          | cons first rest =>
              rw [afterGap] at answer some gapped
              cases token : isTokenCharacter first with
              | false => simp [token] at some
              | true =>
                  refine ⟨written, afterWord.takeWhile isBlank, first, rest, ?_,
                    ⟨begins, word, some.1, fun _ => mem_takeWhile⟩, token, ?_⟩
                  · rw [List.append_assoc, gapped]
                  · exact (Option.some.inj answer).symm
  · rintro ⟨kept, gap, first, rest, rfl, ⟨begins, word, some, blanks⟩, token, rfl⟩
    have unblank : isBlank first = false := by
      cases blank : isBlank first with
      | false => rfl
      | true =>
          rw [bearerPattern.body_of_blank first blank] at token
          cases token
    have begun : isTokenCharacter first = true := token
    have read := takeWhile_eq _ (first :: rest) blanks (by simpa using unblank)
    rw [List.append_assoc, bearer_eq begins word, read.1, read.2, if_neg]
    simp [some, begun]

/-! ## Named credentials -/

/-- At most one quote. -/
def IsOptionalQuote (characters : List Char) : Prop :=
  characters = [] ∨ ∃ quote, isQuote quote = true ∧ characters = [quote]

/-- What stands between the name of a credential and its value. -/
structure Assignment where
  openQuote : List Char
  gap : List Char
  sign : Char
  secondGap : List Char
  valueQuote : List Char
  openQuote_isOptional : IsOptionalQuote openQuote
  gap_blank : ∀ character ∈ gap, isBlank character = true
  sign_eq : sign = ':' ∨ sign = '='
  secondGap_blank : ∀ character ∈ secondGap, isBlank character = true
  valueQuote_isOptional : IsOptionalQuote valueQuote

def Assignment.characters (assignment : Assignment) : List Char :=
  assignment.openQuote ++ assignment.gap ++ assignment.sign :: assignment.secondGap ++
    assignment.valueQuote

theorem isPlain_of_quote {character : Char} (quote : isQuote character = true) :
    isPlain character = false := by
  simp [isPlain, quote]

theorem IsOptionalQuote.not_plain {characters : List Char} (optional : IsOptionalQuote characters) :
    ∀ character ∈ characters, isPlain character = false := by
  rcases optional with rfl | ⟨quote, isQuote, rfl⟩
  · simp
  · intro character member
    rw [List.mem_singleton.mp member]
    exact isPlain_of_quote isQuote

theorem Assignment.not_plain (assignment : Assignment) :
    ∀ character ∈ assignment.characters, isPlain character = false := by
  have sign : isPlain assignment.sign = false := by
    rcases assignment.sign_eq with colon | equals
    · rw [colon]
      decide
    · rw [equals]
      decide
  intro character member
  simp only [characters, List.mem_append, List.mem_cons] at member
  rcases member with ((quote | gap) | (rfl | gap)) | quote
  · exact assignment.openQuote_isOptional.not_plain character quote
  · exact isPlain_of_blank (assignment.gap_blank character gap)
  · exact sign
  · exact isPlain_of_blank (assignment.secondGap_blank character gap)
  · exact assignment.valueQuote_isOptional.not_plain character quote

theorem takeQuote_isOptional (text : List Char) :
    IsOptionalQuote (takeQuote text).1 ∧ (takeQuote text).1 ++ (takeQuote text).2 = text := by
  cases text with
  | nil => exact ⟨.inl rfl, rfl⟩
  | cons character rest =>
      rw [takeQuote]
      split
      next quote => exact ⟨.inr ⟨character, quote, rfl⟩, rfl⟩
      next => exact ⟨.inl rfl, rfl⟩

theorem takeQuote_append {quote : List Char} (text : List Char) (optional : IsOptionalQuote quote)
    (ends : ∀ character ∈ text.head?, isQuote character = false) :
    takeQuote (quote ++ text) = (quote, text) := by
  rcases optional with rfl | ⟨character, isQuote, rfl⟩
  · cases text with
    | nil => rfl
    | cons character rest =>
        have other := ends character rfl
        simp [takeQuote, other]
  · simp [takeQuote, isQuote]

theorem exists_of_assignment? {text sign value : List Char}
    (read : assignment? text = some (sign, value)) :
    ∃ assignment : Assignment, sign = assignment.characters ∧ text = sign ++ value := by
  have quoted := takeQuote_isOptional text
  have gapped := List.takeWhile_append_dropWhile (p := isBlank) (l := (takeQuote text).2)
  simp only [assignment?, List.span_eq_takeWhile_dropWhile] at read
  split at read
  next character rest afterGap =>
    split at read
    next isSign =>
      have secondGapped := List.takeWhile_append_dropWhile (p := isBlank) (l := rest)
      have secondQuoted := takeQuote_isOptional (rest.dropWhile isBlank)
      cases read
      refine ⟨⟨(takeQuote text).1, _, character, rest.takeWhile isBlank,
        (takeQuote (rest.dropWhile isBlank)).1, quoted.1, fun _ => mem_takeWhile, ?_,
        fun _ => mem_takeWhile, secondQuoted.1⟩, rfl, ?_⟩
      · rw [Bool.or_eq_true, beq_iff_eq, beq_iff_eq] at isSign
        exact isSign
      · rw [List.append_assoc, secondQuoted.2, List.append_assoc, List.cons_append, secondGapped,
          List.append_assoc, ← afterGap, gapped, quoted.2]
    next => cases read
  next => cases read

theorem isQuote_of_blank {character : Char} (blank : isBlank character = true) :
    isQuote character = false := by
  simp only [isQuote, Bool.or_eq_false_iff, beq_eq_false_iff_ne]
  exact ⟨ne_of_blank (by decide) blank, ne_of_blank (by decide) blank⟩

theorem isBlank_of_quote {character : Char} (quote : isQuote character = true) :
    isBlank character = false := by
  cases blank : isBlank character with
  | false => rfl
  | true =>
      rw [isQuote_of_blank blank] at quote
      cases quote

theorem Assignment.read (assignment : Assignment) {first : Char} {rest : List Char}
    (begins : endsValue first = false) :
    assignment? (assignment.characters ++ first :: rest) =
      some (assignment.characters, first :: rest) := by
  rcases assignment with ⟨openQuote, gap, sign, secondGap, valueQuote, openQuoteOptional, gapBlank,
    signEq, secondGapBlank, valueQuoteOptional⟩
  rw [endsValue, Bool.or_eq_false_iff, Bool.or_eq_false_iff] at begins
  have isSign : (sign == ':' || sign == '=') = true := by
    rw [Bool.or_eq_true, beq_iff_eq, beq_iff_eq]
    exact signEq
  have signNotQuote : isQuote sign = false ∧ isBlank sign = false := by
    rcases signEq with rfl | rfl
    · decide
    · decide
  have quoted := takeQuote_append (gap ++ sign :: (secondGap ++ (valueQuote ++ first :: rest)))
    openQuoteOptional (by
      intro character head
      cases gap with
      | nil =>
          cases head
          exact signNotQuote.1
      | cons blank gap =>
          cases head
          exact isQuote_of_blank (gapBlank _ List.mem_cons_self))
  have gapped := takeWhile_eq _ (sign :: (secondGap ++ (valueQuote ++ first :: rest))) gapBlank
    (by simpa using signNotQuote.2)
  have secondGapped := takeWhile_eq _ (valueQuote ++ first :: rest) secondGapBlank (by
    intro character head
    rcases valueQuoteOptional with rfl | ⟨quote, isQuote, rfl⟩
    · cases head
      exact begins.1.1
    · cases head
      exact isBlank_of_quote isQuote)
  have valueQuoted := takeQuote_append (first :: rest) valueQuoteOptional
    (by simpa using begins.1.2)
  have whole : openQuote ++ gap ++ sign :: secondGap ++ valueQuote ++ first :: rest =
      openQuote ++ (gap ++ sign :: (secondGap ++ (valueQuote ++ first :: rest))) := by simp
  simp only [characters, whole, assignment?, List.span_eq_takeWhile_dropWhile, quoted, gapped.1,
    gapped.2, isSign, if_true, secondGapped.1, secondGapped.2, valueQuoted]

/-- The name of a credential, in any case, and what stands between it and the value. -/
def IsNaming (characters : List Char) : Prop :=
  ∃ name ∈ credentialNames, ∃ written, ∃ assignment : Assignment,
    written.map fold = name.toList ∧ characters = written ++ assignment.characters

theorem mem_credentialName {name : String} (member : name ∈ credentialNames) {written : List Char}
    (named : written.map fold = name.toList) :
    ∀ character ∈ written, isNameCharacter character = true := by
  have names : credentialNames.all (fun name =>
      name.toList.all fun character => character.isAlphanum || character == '_') = true := by decide
  exact isNameCharacter_of_folded named (List.all_eq_true.mp names name member)

def credentialPattern : Pattern where
  Opens before kept gap := gap = [] ∧ wordMayBegin before = true ∧ IsNaming kept
  filler := []
  body character := !endsValue character
  padding _ := false
  kept_ne_nil := by
    rintro _ kept gap ⟨_, _, name, _, written, assignment, _, rfl⟩
    simp [Assignment.characters]
  bracket_notMem := by
    rintro _ kept gap ⟨rfl, _, name, member, written, assignment, named, rfl⟩ bracket
    rw [List.append_nil, List.mem_append] at bracket
    rcases bracket with inName | inAssignment
    · exact ne_of_name (by decide) (mem_credentialName member named _ inName) rfl
    · have loose := assignment.not_plain _ inAssignment
      revert loose
      decide
  not_plain_after_blank := by
    rintro _ kept gap early late blank character
      ⟨rfl, _, name, member, written, assignment, named, rfl⟩ whole isBlank
    rw [List.append_nil] at whole
    apply not_plain_after _ assignment.not_plain whole isBlank
    intro character inName
    exact isBlank_of_name (mem_credentialName member named character inName)
  filler_blank := isBlank_of_mem_nil
  body_of_blank := by
    intro character blank
    simp [endsValue, blank]
  padding_of_blank _ _ := rfl

/-- What the recogniser does about one of the names. -/
def credentialAt (characters : List Char) (name : String) : Option Finding := do
  let afterName ← afterFolded? name.toList characters
  let (sign, value) ← assignment? afterName
  let secret := value.takeWhile (!endsValue ·)
  if secret.isEmpty then none
  else some (finding characters (name.toList ++ sign) secret)

theorem credential_eq (before : Option Char) (text : List Char) :
    credential before text = if wordMayBegin before then
      credentialNames.findSome? (credentialAt text) else none := rfl

theorem prefix_of_credentialAt {text : List Char} {name : String} {found : Finding}
    (answer : credentialAt text name = some found) : name.toList <+: text.map fold := by
  rcases Option.bind_eq_some_iff.mp answer with ⟨afterName, read, _⟩
  rcases afterFolded?_iff.mp read with ⟨written, rfl, named⟩
  exact ⟨afterName.map fold, by rw [List.map_append, named]⟩

/-- What the recogniser says about a name that the text begins with. -/
theorem credentialAt_eq {name : String} {written sign value : List Char}
    (named : written.map fold = name.toList)
    (assigned : assignment? (sign ++ value) = some (sign, value)) :
    credentialAt (written ++ (sign ++ value)) name =
      if (value.takeWhile (!endsValue ·)).isEmpty then none
      else some ⟨written ++ sign ++ mark,
        (written ++ sign ++ value.takeWhile (!endsValue ·)).length⟩ := by
  have read : afterFolded? name.toList (written ++ (sign ++ value)) = some (sign ++ value) :=
    afterFolded?_iff.mpr ⟨written, rfl, named⟩
  have size : (name.toList ++ sign).length = (written ++ sign).length := by
    rw [List.length_append, ← named, List.length_map, List.length_append]
  rw [← finding_eq value size, credentialAt, read, Option.bind_eq_bind, Option.bind_some,
    assigned, List.append_assoc]
  rfl

theorem credentialAt_iff {text : List Char} {name : String} {found : Finding} :
    credentialAt text name = some found ↔
      ∃ written, ∃ assignment : Assignment, ∃ first rest,
        text = written ++ assignment.characters ++ first :: rest ∧
          written.map fold = name.toList ∧ endsValue first = false ∧
            found = ⟨written ++ assignment.characters ++ mark, (written ++ assignment.characters ++
              (first :: rest).takeWhile (!endsValue ·)).length⟩ := by
  constructor
  · intro answer
    have reading := answer
    rcases Option.bind_eq_some_iff.mp reading with ⟨afterName, read, reading⟩
    rcases Option.bind_eq_some_iff.mp reading with ⟨⟨sign, value⟩, assigned, _⟩
    rcases afterFolded?_iff.mp read with ⟨written, rfl, named⟩
    rcases exists_of_assignment? assigned with ⟨assignment, rfl, rfl⟩
    rw [credentialAt_eq named assigned] at answer
    split at answer
    next => cases answer
    next some =>
      cases value with
      | nil => exact absurd rfl some
      | cons first rest =>
          cases ends : endsValue first with
          | true => simp [ends] at some
          | false =>
              exact ⟨written, assignment, first, rest, by rw [List.append_assoc], named, ends,
                (Option.some.inj answer).symm⟩
  · rintro ⟨written, assignment, first, rest, rfl, named, begins, rfl⟩
    rw [List.append_assoc, credentialAt_eq named (assignment.read begins), if_neg]
    simp [begins]

theorem credential_describes : credentialPattern.Describes credential := by
  intro before text found
  have read := findSome?_iff_exists credentialNames (text.map fold) (by decide)
    (fun _ _ => prefix_of_credentialAt) found
  rw [credential_eq]
  constructor
  · intro answer
    split at answer
    next begins =>
      rcases read.mp answer with ⟨name, member, answer⟩
      rcases credentialAt_iff.mp answer with
        ⟨written, assignment, first, rest, rfl, named, ends, rfl⟩
      have opens : credentialPattern.Opens before (written ++ assignment.characters) [] :=
        ⟨rfl, begins, name, member, written, assignment, named, rfl⟩
      refine ⟨written ++ assignment.characters, [], first, rest, by rw [List.append_nil], opens,
        by simp [credentialPattern, ends], ?_⟩
      rw [List.append_nil, Pattern.secret_of_unpadded rfl]
      rfl
    next => cases answer
  · rintro ⟨kept, gap, first, rest, rfl, opens, inside, rfl⟩
    rcases opens with ⟨rfl, begins, name, member, written, assignment, named, rfl⟩
    have ends : endsValue first = false := by simpa [credentialPattern] using inside
    rw [if_pos begins, read]
    refine ⟨name, member, credentialAt_iff.mpr ⟨written, assignment, first, rest,
      by rw [List.append_nil], named, ends, ?_⟩⟩
    rw [List.append_nil, Pattern.secret_of_unpadded rfl]
    rfl

end ObservatoryWatch.Redaction
