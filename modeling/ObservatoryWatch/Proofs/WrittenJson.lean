import Mathlib.Data.List.Basic
import ObservatoryWatch.Proofs.BareValues
import ObservatoryWatch.Proofs.QuotedText

/-!
Values told by their text.

In the form that identifies records a text is the text of one value only, up to numbers that are
not finite. The induction needs more: of two texts with something after them that are the same
together, the texts and what comes after them are the same each. That is so because what comes
after a value begins with a mark, and a value without marks ends before the first of them.
-/

namespace ObservatoryWatch.Json

open Text

/-! ## Where a value ends -/

/-- What may follow a value inside of others: nothing, a comma or a closing bracket. -/
def Follows (rest : List Char) : Prop :=
  ∀ mark ∈ rest.head?, mark = ',' ∨ mark = ']' ∨ mark = '\x7d'

theorem Follows.takeWhile {rest : List Char} (follows : Follows rest) :
    rest.takeWhile (! isMark ·) = [] := by
  cases rest with
  | nil => rfl
  | cons mark rest =>
      have isMark : isMark mark = true := by
        rcases follows mark rfl with rfl | rfl | rfl <;> rfl
      simp [isMark]

/-- Of two written values that are the same together with what follows them, the values are read
as the same and what follows them is the same. -/
def Ends {α β : Type} (written : α → List Char) (reading : α → β) (value : α) : Prop :=
  ∀ other rest rest', Follows rest → Follows rest' →
    written value ++ rest = written other ++ rest' →
      reading value = reading other ∧ rest = rest'

/-! ## Lists of written values -/

section

variable {α β : Type} (written : α → List Char) (reading : α → β)

/-- The rest of a list, each value with a comma before it. -/
def continued (close : Char) (values : List α) : List Char :=
  values.flatMap (fun value => ',' :: written value) ++ [close]

/-- A list after its opening bracket. -/
def enclosed (close : Char) : List α → List Char
  | [] => [close]
  | value :: rest => written value ++ continued written close rest

theorem toList_intercalate_comma (close : Char) (texts : List String) :
    (",".intercalate texts).toList ++ [close] = enclosed String.toList close texts := by
  rw [String.toList_intercalate]
  cases texts with
  | nil => rfl
  | cons text rest =>
      induction rest generalizing text with
      | nil => simp [enclosed, continued]
      | cons next rest induction =>
          rw [List.map_cons, List.map_cons, List.intercalate_cons_cons, List.append_assoc,
            ← List.map_cons, induction]
          simp [enclosed, continued]

variable {written} {reading}

/-- A list after its first value ends at its bracket, because each of its values ends. -/
theorem continued_ends {close : Char} (closing : Follows [close]) (notComma : close ≠ ',')
    {values : List α} (ends : ∀ value ∈ values, Ends written reading value) (others : List α)
    {rest rest' : List Char}
    (same : continued written close values ++ rest = continued written close others ++ rest') :
    values.map reading = others.map reading ∧ rest = rest' := by
  have follows : ∀ (more : List α) (after : List Char),
      Follows (continued written close more ++ after) := by
    intro more after
    cases more with
    | nil => exact closing
    | cons value more =>
        rintro _ ⟨⟩
        exact .inl rfl
  induction values generalizing others with
  | nil =>
      cases others with
      | nil => exact ⟨rfl, List.tail_eq_of_cons_eq same⟩
      | cons other others => exact absurd (List.head_eq_of_cons_eq same) notComma
  | cons value values induction =>
      cases others with
      | nil => exact absurd (List.head_eq_of_cons_eq same).symm notComma
      | cons other others =>
          have remaining : written value ++ (continued written close values ++ rest) =
              written other ++ (continued written close others ++ rest') := by
            simpa [continued] using same
          have first := ends value (List.mem_cons_self ..) other _ _ (follows _ _) (follows _ _)
            remaining
          have later := induction (fun value member => ends value (List.mem_cons_of_mem _ member))
            others first.2
          exact ⟨by rw [List.map_cons, List.map_cons, first.1, later.1], later.2⟩

theorem enclosed_ends {close : Char} (closing : Follows [close]) (notComma : close ≠ ',')
    (starts : ∀ value, ∃ first rest, written value = first :: rest ∧ first ≠ close)
    {values : List α} (ends : ∀ value ∈ values, Ends written reading value) (others : List α)
    {rest rest' : List Char}
    (same : enclosed written close values ++ rest = enclosed written close others ++ rest') :
    values.map reading = others.map reading ∧ rest = rest' := by
  have before : ∀ (value : α) (after : List Char), [close] ++ rest ≠ written value ++ after ∧
      [close] ++ rest' ≠ written value ++ after := by
    intro value after
    rcases starts value with ⟨first, tail, text, other⟩
    rw [text]
    exact ⟨fun same => other (List.head_eq_of_cons_eq same).symm,
      fun same => other (List.head_eq_of_cons_eq same).symm⟩
  cases values with
  | nil =>
      cases others with
      | nil => exact ⟨rfl, List.tail_eq_of_cons_eq same⟩
      | cons other others =>
          rw [enclosed, enclosed, List.append_assoc] at same
          exact absurd same (before other _).1
  | cons value values =>
      cases others with
      | nil =>
          rw [enclosed, enclosed, List.append_assoc] at same
          exact absurd same.symm (before value _).2
      | cons other others =>
          -- A list with a comma before its first value is the rest of a longer list.
          refine continued_ends closing notComma ends (other :: others) ?_
          simpa [continued, enclosed] using same

end

/-! ## The text of each kind of value -/

/-- A text with its quotes. -/
def quotedChars (text : List CodePoint) : List Char :=
  '"' :: (text.flatMap (writePoint .compact) ++ ['"'])

theorem toList_writeString_eq (text : String) :
    (writeString .compact text).toList = quotedChars (points text.toList) := by
  rw [toList_writeString, quotedChars, points, List.flatMap_map]
  rfl

/-- A key, a colon and the value that stands under the key. -/
def memberChars (member : String × Json) : List Char :=
  quotedChars (points member.1.toList) ++ ':' :: chars member.2

theorem writeItems_eq_map (form : Form) (items : List Json) :
    writeItems form items = items.map (write form) := by
  induction items with
  | nil => rfl
  | cons item rest induction => rw [writeItems, induction, List.map_cons]

theorem writeMembers_eq_map (form : Form) (members : List (String × Json)) :
    writeMembers form members = members.map fun member =>
      writeString form member.1 ++ form.afterKey ++ write form member.2 := by
  induction members with
  | nil => rfl
  | cons member rest induction =>
      rcases member with ⟨key, value⟩
      rw [writeMembers, induction, List.map_cons]

theorem enclosed_map {α : Type} (texts : α → String) (close : Char) (values : List α) :
    enclosed String.toList close (values.map texts) =
      enclosed (fun value => (texts value).toList) close values := by
  cases values with
  | nil => rfl
  | cons value rest => simp [enclosed, continued, List.flatMap_map]

theorem chars_string (text : String) :
    chars (.string text) = quotedChars (points text.toList) := toList_writeString_eq text

theorem chars_ragged (text : Ragged) : chars (.ragged text) = quotedChars text.points :=
  String.toList_ofList

theorem chars_array (items : List Json) :
    chars (.array items) = '[' :: enclosed chars ']' items := by
  have joined := toList_intercalate_comma ']' (writeItems .compact items)
  rw [writeItems_eq_map, enclosed_map] at joined
  rw [chars, write, String.toList_append, String.toList_append, writeItems_eq_map]
  exact congrArg ('[' :: ·) joined

theorem chars_object (members : List (String × Json)) :
    chars (.object members) = '\x7b' :: enclosed memberChars '\x7d' members := by
  have joined := toList_intercalate_comma '\x7d' (writeMembers .compact members)
  have each : (fun member : String × Json => (writeString Form.compact member.1 ++
      Form.compact.afterKey ++ write .compact member.2).toList) = memberChars := by
    funext member
    rw [String.toList_append, String.toList_append, List.append_assoc, toList_writeString_eq]
    rfl
  rw [writeMembers_eq_map, enclosed_map, each] at joined
  rw [chars, write, String.toList_append, String.toList_append, writeMembers_eq_map]
  exact congrArg ('\x7b' :: ·) joined

/-- The mark that the text of a value begins with; none if the value is written without marks. -/
def opening : Json → Option Char
  | .string _ | .ragged _ => some '"'
  | .array _ => some '['
  | .object _ => some '\x7b'
  | _ => none

theorem isBare_iff_opening_eq_none (value : Json) :
    value.isBare = true ↔ value.opening = none := by
  cases value <;> simp [isBare, opening]

theorem bare_starts {value : Json} (bare : value.isBare = true) :
    ∃ first rest, value.chars = first :: rest ∧ (! isMark first) = true := by
  have marks := not_isMark_of_mem_chars bare
  have read := bare?_chars bare
  cases text : value.chars with
  | nil =>
      rw [text] at read
      cases read
  | cons first rest =>
      rw [text] at marks
      exact ⟨first, rest, rfl, marks first (List.mem_cons_self ..)⟩

theorem chars_starts (value : Json) :
    ∃ first rest, value.chars = first :: rest ∧
      (value.opening = some first ∨ value.opening = none ∧ (! isMark first) = true) := by
  cases bare : value.isBare with
  | true =>
      have unopened := (isBare_iff_opening_eq_none value).mp bare
      rcases bare_starts bare with ⟨first, rest, text, plain⟩
      exact ⟨first, rest, text, .inr ⟨unopened, plain⟩⟩
  | false =>
      cases value with
      | string text => exact ⟨_, _, chars_string text, .inl rfl⟩
      | ragged text => exact ⟨_, _, chars_ragged text, .inl rfl⟩
      | array items => exact ⟨_, _, chars_array items, .inl rfl⟩
      | object members => exact ⟨_, _, chars_object members, .inl rfl⟩
      | _ => cases bare

/-! ## Telling values apart -/

theorem points_injective : Function.Injective points :=
  List.map_injective_iff.mpr fun _ _ => CodePoint.char.inj

theorem isMark_of_opening {value : Json} {mark : Char} (opens : value.opening = some mark) :
    isMark mark = true := by
  cases value <;> cases opens <;> rfl

/-- Values whose texts begin alike are both texts, both lists, both objects or both bare. -/
theorem opening_eq_of_chars {value other : Json} {rest rest' : List Char}
    (same : value.chars ++ rest = other.chars ++ rest') : value.opening = other.opening := by
  rcases value.chars_starts with ⟨first, tail, text, opens⟩
  rcases other.chars_starts with ⟨first', tail', text', opens'⟩
  rw [text, text'] at same
  cases List.head_eq_of_cons_eq same
  rcases opens with opens | ⟨opens, plain⟩ <;> rcases opens' with opens' | ⟨opens', plain'⟩
  · rw [opens, opens']
  · rw [isMark_of_opening opens] at plain'
    cases plain'
  · rw [isMark_of_opening opens'] at plain
    cases plain
  · rw [opens, opens']

/-- The first code point of a quoted text, and the text after it. Escaped surrogates are not joined,
since a character beyond the first plane is written as it is. -/
def firstPoint? : List CodePoint → Option (CodePoint × List CodePoint)
  | .char '\\' :: .char 'u' :: rest => do
    let (unit, after) ← readUnit? rest
    (CodePoint.ofNat? unit).map (·, after)
  | .char '\\' :: .char mark :: rest => (simpleEscapes.lookup mark).map (.char ·, rest)
  | point :: rest => some (point, rest)
  | [] => none

theorem firstPoint?_unitEscape {unit : Nat} (small : unit < 0x10000) (rest : List CodePoint) :
    firstPoint? (points (unitEscape unit) ++ rest) = (CodePoint.ofNat? unit).map (·, rest) := by
  have marked : points (unitEscape unit) ++ rest =
      .char '\\' :: .char 'u' :: (points ((unitEscape unit).drop 2) ++ rest) := rfl
  rw [marked, firstPoint?, readUnit?_unitEscape small]
  rfl

theorem firstPoint?_writeChar (character : Char) (rest : List CodePoint) :
    firstPoint? (points (writeChar .compact character) ++ rest) = some (.char character, rest) := by
  unfold writeChar
  split
  next mark listed =>
    rcases lookup_shortEscapes listed with ⟨mark_ne, named⟩
    change firstPoint? (.char '\\' :: .char mark :: rest) = _
    rw [firstPoint?, named, Option.map_some]
    rintro ⟨⟩
    exact mark_ne rfl
  next unlisted =>
    split
    next plain =>
      have unescaped : character ≠ '\\' := by
        rintro rfl
        cases unlisted
      change firstPoint? (.char character :: rest) = _
      unfold firstPoint?
      split <;> simp_all
    next control =>
      have below : ¬ ' ' ≤ character := fun above => control (decide_eq_true above)
      have small : character.toNat < 0x10000 :=
        (Nat.lt_of_not_le below).trans (by decide : ' '.toNat < 0x10000)
      unfold longEscape
      dsimp only
      rw [if_pos small, firstPoint?_unitEscape small, ofNat?_toNat, Option.map_some]

theorem firstPoint?_writePoint (point : CodePoint) (rest : List CodePoint) :
    firstPoint? (points (writePoint .compact point) ++ rest) = some (point, rest) := by
  cases point with
  | char character => exact firstPoint?_writeChar character rest
  | lone surrogate =>
      rcases surrogate with ⟨code, isSurrogate⟩
      have small : code < 0x10000 := by omega
      have found : CodePoint.ofNat? code = some (.lone ⟨code, isSurrogate⟩) := dif_pos isSurrogate
      change firstPoint? (points (unitEscape code) ++ rest) = _
      rw [firstPoint?_unitEscape small, found, Option.map_some]

/-- What a code point is written as does not begin with a quote. -/
theorem writePoint_ne_quote (point : CodePoint) (early late : List Char) :
    '"' :: early ≠ writePoint .compact point ++ late := by
  intro same
  have read := firstPoint?_writePoint point (points late)
  rw [← points_append, ← same] at read
  have quote : CodePoint.char '"' = point := (Prod.ext_iff.mp (Option.some.inj read)).1
  rw [← quote] at same
  cases same

/-- A quoted text ends at its quote, whatever follows. -/
theorem quotedChars_ends {text other : List CodePoint} {rest rest' : List Char}
    (same : quotedChars text ++ rest = quotedChars other ++ rest') :
    text = other ∧ rest = rest' := by
  have opened : text.flatMap (writePoint .compact) ++ '"' :: rest =
      other.flatMap (writePoint .compact) ++ '"' :: rest' := by
    simpa [quotedChars] using same
  clear same
  induction text generalizing other with
  | nil =>
      cases other with
      | nil => exact ⟨rfl, List.tail_eq_of_cons_eq opened⟩
      | cons point others =>
          rw [List.flatMap_cons, List.append_assoc] at opened
          exact absurd opened (writePoint_ne_quote point _ _)
  | cons point others induction =>
      cases other with
      | nil =>
          rw [List.flatMap_cons, List.append_assoc] at opened
          exact absurd opened.symm (writePoint_ne_quote point _ _)
      | cons point' others' =>
          rw [List.flatMap_cons, List.flatMap_cons, List.append_assoc, List.append_assoc] at opened
          have read := firstPoint?_writePoint point
            (points (others.flatMap (writePoint .compact) ++ '"' :: rest))
          rw [← points_append, opened, points_append, firstPoint?_writePoint] at read
          have first : point' = point := (Prod.ext_iff.mp (Option.some.inj read)).1
          have after := points_injective (Prod.ext_iff.mp (Option.some.inj read)).2
          rcases induction after.symm with ⟨same, rests⟩
          exact ⟨by rw [first, same], rests⟩

/-- A value without marks ends before the mark that follows it. -/
theorem bare_ends {value other : Json} (bare : value.isBare = true) (bare' : other.isBare = true)
    {rest rest' : List Char} (follows : Follows rest) (follows' : Follows rest')
    (same : value.chars ++ rest = other.chars ++ rest') :
    value.expressible = other.expressible ∧ rest = rest' := by
  have taken : ∀ {value : Json} {rest : List Char}, value.isBare = true → Follows rest →
      (value.chars ++ rest).takeWhile (! isMark ·) = value.chars := by
    intro value rest bare follows
    rw [List.takeWhile_append_of_pos (not_isMark_of_mem_chars bare), follows.takeWhile,
      List.append_nil]
  have texts : value.chars = other.chars := by
    rw [← taken bare follows, same, taken bare' follows']
  have read := bare?_chars bare
  rw [texts, bare?_chars bare'] at read
  rw [texts] at same
  exact ⟨(Option.some.inj read).symm, List.append_cancel_left same⟩

theorem member_ends {member : String × Json} (ends : Ends chars expressible member.2) :
    Ends memberChars (fun member => (member.1, member.2.expressible)) member := by
  intro other rest rest' follows follows' same
  rw [memberChars, memberChars, List.append_assoc, List.append_assoc] at same
  rcases quotedChars_ends same with ⟨keys, after⟩
  rcases ends other.2 rest rest' follows follows' (List.tail_eq_of_cons_eq after) with
    ⟨values, rests⟩
  exact ⟨Prod.ext (String.toList_injective (points_injective keys)) values, rests⟩

theorem follows_bracket : Follows [']'] := by
  rintro _ ⟨⟩
  exact .inr (.inl rfl)

theorem follows_brace : Follows ['\x7d'] := by
  rintro _ ⟨⟩
  exact .inr (.inr rfl)

theorem chars_starts_inside (value : Json) :
    ∃ first rest, value.chars = first :: rest ∧ first ≠ ']' := by
  rcases value.chars_starts with ⟨first, rest, text, opens⟩
  refine ⟨first, rest, text, ?_⟩
  rintro rfl
  rcases opens with opens | ⟨_, plain⟩
  · cases value <;> cases opens
  · cases plain

theorem memberChars_starts (member : String × Json) :
    ∃ first rest, memberChars member = first :: rest ∧ first ≠ '\x7d' := by
  exact ⟨_, _, rfl, by decide⟩

/-- What holds of a list when it holds of its items, of an object when it holds of what stands under
its keys, and of each value without parts, holds of every value. -/
@[elab_as_elim]
theorem inside_induction {motive : Json → Prop} (bare : ∀ value, value.isBare = true → motive value)
    (string : ∀ text, motive (.string text)) (ragged : ∀ text, motive (.ragged text))
    (array : ∀ items, (∀ item ∈ items, motive item) → motive (.array items))
    (object : ∀ members, (∀ member ∈ members, motive member.2) → motive (.object members))
    (value : Json) : motive value := by
  match value with
  | .null | .bool _ | .integer _ | .float _ => exact bare _ rfl
  | .string text => exact string text
  | .ragged text => exact ragged text
  | .array items =>
      exact array items fun item inside => inside_induction bare string ragged array object item
  | .object members =>
      exact object members fun member inside =>
        inside_induction bare string ragged array object member.2
termination_by sizeOf value
decreasing_by
  · have smaller := List.sizeOf_lt_of_mem inside
    simp only [Json.array.sizeOf_spec]
    omega
  · have smaller := List.sizeOf_lt_of_mem inside
    have part : sizeOf member = 1 + sizeOf member.1 + sizeOf member.2 := rfl
    simp only [Json.object.sizeOf_spec]
    omega

/-- A text with surrogates is not one without. -/
theorem points_ne_of_ragged (text : Ragged) (whole : List Char) : text.points ≠ points whole := by
  intro same
  have lone := text.isRagged
  rw [same, any_isLone_points] at lone
  cases lone

/-- Each value ends where its text ends, and its text says which value it is. -/
theorem chars_ends (value : Json) : Ends chars expressible value := by
  induction value using inside_induction with
  | bare value bare =>
      intro other rest rest' follows follows' same
      have opened := (isBare_iff_opening_eq_none value).mp bare
      rw [opening_eq_of_chars same] at opened
      exact bare_ends bare ((isBare_iff_opening_eq_none other).mpr opened) follows follows' same
  | string text =>
      intro other rest rest' _ _ same
      cases other <;> cases opening_eq_of_chars same
      next text' =>
        rw [chars_string, chars_string] at same
        rcases quotedChars_ends same with ⟨texts, rests⟩
        rw [String.toList_injective (points_injective texts)]
        exact ⟨rfl, rests⟩
      next text' =>
        rw [chars_string, chars_ragged] at same
        exact absurd (quotedChars_ends same).1.symm (points_ne_of_ragged text' _)
  | ragged text =>
      intro other rest rest' _ _ same
      cases other <;> cases opening_eq_of_chars same
      next text' =>
        rw [chars_string, chars_ragged] at same
        exact absurd (quotedChars_ends same).1 (points_ne_of_ragged text _)
      next text' =>
        rw [chars_ragged, chars_ragged] at same
        rcases quotedChars_ends same with ⟨texts, rests⟩
        rcases text with ⟨points, isRagged⟩
        cases texts
        exact ⟨rfl, rests⟩
  | array items ends =>
      intro other rest rest' _ _ same
      cases other <;> cases opening_eq_of_chars same
      next items' =>
        rw [chars_array, chars_array] at same
        rcases enclosed_ends follows_bracket (by decide) chars_starts_inside ends items'
          (List.tail_eq_of_cons_eq same) with ⟨read, rests⟩
        rw [expressible, expressible, expressibleItems_eq_map, expressibleItems_eq_map, read]
        exact ⟨rfl, rests⟩
  | object members ends =>
      intro other rest rest' _ _ same
      cases other <;> cases opening_eq_of_chars same
      next members' =>
        rw [chars_object, chars_object] at same
        rcases enclosed_ends follows_brace (by decide) memberChars_starts
          (fun member inside => member_ends (ends member inside)) members'
          (List.tail_eq_of_cons_eq same) with ⟨read, rests⟩
        rw [expressible, expressible, expressibleMembers_eq_map, expressibleMembers_eq_map, read]
        exact ⟨rfl, rests⟩

/-! ## Texts that are the same -/

/-- Writing does not tell a number that is not finite from null. -/
theorem write_expressible (value : Json) :
    value.expressible.write .compact = value.write .compact := by
  induction value using inside_induction with
  | bare value bare =>
      cases value with
      | float number =>
          cases finite : number.isFinite with
          | false =>
              have named := String.toList_injective (chars_float_of_not_finite finite)
              rw [expressible, finite, named]
              rfl
          | true =>
              rw [expressible, finite]
              rfl
      | string => cases bare
      | ragged => cases bare
      | array => cases bare
      | object => cases bare
      | null => rfl
      | bool => rfl
      | integer => rfl
  | string text => rfl
  | ragged text => rfl
  | array items each =>
      have texts := List.map_congr_left each
      rw [expressible, write, write, expressibleItems_eq_map, writeItems_eq_map, writeItems_eq_map,
        List.map_map]
      exact congrArg (fun texts => "[" ++ ",".intercalate texts ++ "]") texts
  | object members each =>
      have texts : members.map (fun member => writeString Form.compact member.1 ++ ":" ++
          member.2.expressible.write .compact) =
            members.map fun member => writeString Form.compact member.1 ++ ":" ++
              member.2.write .compact :=
        List.map_congr_left fun member inside => by rw [each member inside]
      rw [expressible, write, write, expressibleMembers_eq_map, writeMembers_eq_map,
        writeMembers_eq_map, List.map_map]
      exact congrArg (fun texts => "\x7b" ++ ",".intercalate texts ++ "\x7d") texts

/-- Two values have one text exactly when they differ in nothing but the numbers that are not
finite. -/
theorem write_compact_eq_iff (value other : Json) :
    value.write .compact = other.write .compact ↔ value.expressible = other.expressible := by
  constructor
  · intro same
    have texts : value.chars ++ [] = other.chars ++ [] := by rw [chars, chars, same]
    exact (chars_ends value other [] [] nofun nofun texts).1
  · intro same
    rw [← write_expressible value, same, write_expressible other]

end ObservatoryWatch.Json
