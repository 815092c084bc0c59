import Mathlib.Data.List.Nodup
import Mathlib.Data.List.Perm.Basic
import PrdAgent.Library.PythonJson

/-!
# Where Go and Python write the same JSON

Both encoders write a value in the same way, up to the characters they escape (`charsBy`). Either text
determines the value, whichever encoder wrote it (`charsBy_inj`), so the two texts of two values agree
exactly if the values do and no text in them has a character that only Go escapes
(`charsBy_eq_iff`): `<`, `>`, `&`, U+2028 or U+2029.
-/

namespace Json

open GoText

/-! ## Texts with a given escape -/

def quoteBy (escape : Char → List Char) (text : String) : List Char :=
  '"' :: (text.toList.flatMap escape ++ ['"'])

def joined : List (List Char) → List Char
  | [] => []
  | part :: rest => part ++ rest.flatMap (',' :: ·)

/-- The characters of a value, when characters of texts are escaped as given. -/
def charsBy (escape : Char → List Char) : Json → List Char
  | .null => ['n', 'u', 'l', 'l']
  | .bool true => ['t', 'r', 'u', 'e']
  | .bool false => ['f', 'a', 'l', 's', 'e']
  | .int value => value.repr.toList
  | .str value => quoteBy escape value
  | .arr items => '[' :: (joined (items.map (charsBy escape ·)) ++ [']'])
  | .obj fields =>
    '\x7b' :: (joined (fields.map fun field =>
      quoteBy escape field.1 ++ ':' :: charsBy escape field.2) ++ ['\x7d'])
decreasing_by
  · decreasing_tactic
  · have := List.sizeOf_lt_of_mem ‹field ∈ fields›
    have : sizeOf field = 1 + sizeOf field.1 + sizeOf field.2 := rfl
    decreasing_tactic

/-- Induction over a value, whose arrays and objects hold values. -/
@[elab_as_elim, induction_eliminator]
theorem induct {motive : Json → Prop} (null : motive .null) (bool : ∀ value, motive (.bool value))
    (int : ∀ value, motive (.int value)) (str : ∀ value, motive (.str value))
    (arr : ∀ items, (∀ item ∈ items, motive item) → motive (.arr items))
    (obj : ∀ fields : List (String × Json), (∀ field ∈ fields, motive field.2) →
      motive (.obj fields)) (value : Json) : motive value :=
  @Json.rec motive (∀ item ∈ ·, motive item) (∀ field ∈ ·, motive field.2) (motive ·.2)
    null bool int str arr obj nofun (fun _ _ is all => List.forall_mem_cons.mpr ⟨is, all⟩)
    nofun (fun _ _ is all => List.forall_mem_cons.mpr ⟨is, all⟩) (fun _ _ is => is) value

theorem toList_commaJoined (parts : List String) :
    (commaJoined parts).toList = joined (parts.map String.toList) := by
  induction parts with
  | nil => rfl
  | cons part rest ih =>
    cases rest with
    | nil => simp [commaJoined, joined]
    | cons next rest =>
      have step : commaJoined (part :: next :: rest) = part ++ "," ++ commaJoined (next :: rest) := rfl
      rw [step, String.toList_append, String.toList_append, ih]
      simp [joined]

/-! ## Go's text -/

private theorem plainBytes : ∀ n : Fin 256, plainByte (UInt8.ofNat n.val) = true →
    isAscii (UInt8.ofNat n.val) = true ∧ escapeChar (Char.ofNat n.val) = [Char.ofNat n.val] := by
  decide +kernel

theorem plainByte_spec {byte : UInt8} (plain : plainByte byte = true) :
    isAscii byte = true ∧ escapeChar (Char.ofNat byte.toNat) = [Char.ofNat byte.toNat] := by
  have known := plainBytes ⟨byte.toNat, byte.toNat_lt⟩
  dsimp only at known
  rw [UInt8.ofNat_toNat] at known
  exact known plain

variable {ch : Char}

theorem escapeChar_of_plain (plain : (String.utf8EncodeChar ch).all plainByte = true) :
    escapeChar ch = [ch] := by
  have bytes := List.all_eq_true.mp plain
  have is := utf8EncodeChar_of_ascii
    (List.all_eq_true.mpr fun byte mem => (plainByte_spec (bytes byte mem)).1)
  obtain ⟨byte, one⟩ : ∃ byte, String.utf8EncodeChar ch = [byte] := by
    have length := congrArg List.length is
    rw [List.length_map] at length
    exact List.length_eq_one_iff.mp length
  rw [one, List.map_singleton, List.singleton_inj] at is
  have copied := (plainByte_spec (bytes byte (by simp [one]))).2
  rw [is] at copied
  exact copied

theorem toList_quote (text : String) : (quote text).toList = quoteBy escapeChar text := by
  unfold quote quoteBy
  split
  · next plain =>
    rw [bytesOf_eq, List.all_flatMap, List.all_eq_true] at plain
    have same : text.toList.flatMap escapeChar = text.toList := by
      rw [List.flatMap_congr fun ch mem => escapeChar_of_plain (plain ch mem)]
      simp
    simp [same]
  · simp

theorem renderItems_eq (items : List Json) : renderItems items = items.map render := by
  induction items with
  | nil => rfl
  | cons item rest ih => rw [renderItems, ih, List.map_cons]

theorem renderFields_eq (fields : List (String × Json)) :
    renderFields fields = fields.map fun field => quote field.1 ++ ":" ++ render field.2 := by
  induction fields with
  | nil => rfl
  | cons field rest ih => rw [renderFields, ih, List.map_cons]

theorem toList_render (value : Json) : value.render.toList = value.charsBy escapeChar := by
  induction value with
  | null => simp [render, charsBy]
  | bool value => cases value <;> simp [render, charsBy]
  | int value => exact (charsBy.eq_4 _ _).symm
  | str value => rw [render, toList_quote, charsBy]
  | arr items ih =>
    simp [render, renderItems_eq, toList_commaJoined, charsBy, ← List.map_congr_left ih,
      Function.comp_def]
  | obj fields ih =>
    have members : fields.map (fun field => (quote field.1 ++ ":" ++ field.2.render).toList) =
        fields.map fun field => quoteBy escapeChar field.1 ++ ':' :: field.2.charsBy escapeChar :=
      List.map_congr_left fun field mem => by simp [toList_quote, ih field mem]
    simp [render, renderFields_eq, toList_commaJoined, charsBy, ← members, Function.comp_def]

/-! ## Python's text -/

mutual

def toPy : Json → PyValue
  | .null => .none
  | .bool value => .bool value
  | .int value => .int value
  | .str value => .str value
  | .arr items => .list (toPyItems items)
  | .obj fields => .dict (toPyFields fields)

def toPyItems : List Json → List PyValue
  | [] => []
  | item :: rest => toPy item :: toPyItems rest

def toPyFields : List (String × Json) → List (String × PyValue)
  | [] => []
  | (name, value) :: rest => (name, toPy value) :: toPyFields rest

end

theorem toList_pyQuote (text : String) : (PyValue.quote text).toList = quoteBy PyValue.escapeChar text := by
  unfold PyValue.quote quoteBy
  simp

def pyText (value : Json) : String := .ofList (value.canonical.charsBy PyValue.escapeChar)

theorem canonicalFields_eq (fields : List (String × Json)) :
    canonicalFields fields = fields.map fun field => (field.1, field.2.canonical) := by
  induction fields with
  | nil => rfl
  | cons field rest ih => rw [canonicalFields, ih, List.map_cons]

theorem canonicalItems_eq (items : List Json) : canonicalItems items = items.map canonical := by
  induction items with
  | nil => rfl
  | cons item rest ih => rw [canonicalItems, ih, List.map_cons]

def inOrder {α : Type} (fields : List (String × α)) : List (String × α) :=
  fields.insertionSort fun left right => bytesLe (bytesOf left.1) (bytesOf right.1)

variable {α : Type}

theorem map_inOrder {β : Type} (f : α → β) (fields : List (String × α)) :
    (inOrder fields).map (fun field => (field.1, f field.2)) =
      inOrder (fields.map fun field => (field.1, f field.2)) :=
  List.map_insertionSort _ _ _ _ fun _ _ _ _ => Iff.rfl

theorem toList_joinFields (fields : List (String × Json)) :
    (PyValue.joinFields (fields.map fun field => (field.1, pyText field.2))).toList =
      joined ((inOrder (canonicalFields fields)).map fun field =>
        quoteBy PyValue.escapeChar field.1 ++ ':' :: field.2.charsBy PyValue.escapeChar) := by
  have sorted : (fields.map fun field => (field.1, pyText field.2)).insertionSort
      (fun left right => PyValue.keyLe left right) =
        (inOrder fields).map fun field => (field.1, pyText field.2) := (map_inOrder pyText fields).symm
  rw [PyValue.joinFields, sorted, canonicalFields_eq, ← map_inOrder, toList_commaJoined]
  simp [toList_pyQuote, pyText, Function.comp_def]

theorem dumpsItems_toPy {items : List Json} (all : ∀ item ∈ items, item.toPy.dumps = some item.pyText) :
    PyValue.dumpsItems (toPyItems items) = some (items.map pyText) := by
  induction items with
  | nil => rfl
  | cons item rest ih =>
    obtain ⟨first, others⟩ := List.forall_mem_cons.mp all
    rw [toPyItems, PyValue.dumpsItems, first, ih others]
    rfl

theorem dumpsFields_toPy {fields : List (String × Json)}
    (all : ∀ field ∈ fields, field.2.toPy.dumps = some field.2.pyText) :
    PyValue.dumpsFields (toPyFields fields) =
      some (fields.map fun field => (field.1, pyText field.2)) := by
  induction fields with
  | nil => rfl
  | cons field rest ih =>
    obtain ⟨first, others⟩ := List.forall_mem_cons.mp all
    rw [toPyFields, PyValue.dumpsFields, first, ih others]
    rfl

theorem dumps_toPy (value : Json) : value.toPy.dumps = some value.pyText := by
  induction value with
  | null => simp [toPy, PyValue.dumps, pyText, canonical, charsBy]
  | bool value => cases value <;> simp [toPy, PyValue.dumps, pyText, canonical, charsBy]
  | int value => simp [toPy, PyValue.dumps, pyText, canonical, charsBy, itoa, toString]
  | str value => simp [toPy, PyValue.dumps, pyText, canonical, charsBy, ← toList_pyQuote]
  | arr items ih =>
    simp [toPy, PyValue.dumps, dumpsItems_toPy ih, pyText, canonical, charsBy, canonicalItems_eq,
      String.ext_iff, toList_commaJoined, Function.comp_def]
  | obj fields ih =>
    rw [toPy, PyValue.dumps, dumpsFields_toPy ih, pyText, canonical, charsBy]
    change some _ = some (String.ofList (_ :: (joined ((inOrder (canonicalFields fields)).map _) ++ _)))
    rw [← toList_joinFields]
    simp [String.ext_iff]

/-! ## Escapes that can be read back -/

def named : Char → Option Char
  | '"' => some '"'
  | '\\' => some '\\'
  | 'n' => some '\n'
  | 'r' => some '\r'
  | 't' => some '\t'
  | 'b' => some '\x08'
  | 'f' => some '\x0c'
  | _ => none

/-- The ways in which JSON may write a character. -/
inductive Escaped : Char → List Char → Prop
  | copied {ch : Char} (unquoted : ch ≠ '"') (unslashed : ch ≠ '\\') : Escaped ch [ch]
  | named {ch : Char} (letter : Char) (is : named letter = some ch) : Escaped ch ['\\', letter]
  | hex {ch : Char} (small : ch.toNat < 65536) : Escaped ch (hexEscape ch.toNat)

/-- An escape that JSON may use. -/
def Codes (escape : Char → List Char) : Prop := ∀ ch, Escaped ch (escape ch)

theorem codes_pyEscapeChar : Codes PyValue.escapeChar := by
  intro ch
  unfold PyValue.escapeChar
  split
  · exact .named '"' rfl
  · exact .named '\\' rfl
  · exact .named 'n' rfl
  · exact .named 'r' rfl
  · exact .named 't' rfl
  · exact .named 'b' rfl
  · exact .named 'f' rfl
  · next unquoted unslashed _ _ _ _ _ =>
    split
    · exact .hex (by omega)
    · exact .copied unquoted unslashed

private theorem hexDigit_inj : ∀ left right : Fin 16,
    "0123456789abcdef".toList.getD left.val '0' = "0123456789abcdef".toList.getD right.val '0' →
      left = right := by
  decide +kernel

variable {n : Nat}

theorem hexEscape_inj {m : Nat} (small : n < 65536) (small' : m < 65536)
    (same : hexEscape n = hexEscape m) : n = m := by
  have digit {k l : Nat} (is : "0123456789abcdef".toList.getD (k % 16) '0' =
      "0123456789abcdef".toList.getD (l % 16) '0') : k % 16 = l % 16 :=
    congrArg Fin.val (hexDigit_inj ⟨k % 16, by omega⟩ ⟨l % 16, by omega⟩ is)
  unfold hexEscape at same
  simp only [List.cons.injEq, true_and, and_true] at same
  obtain ⟨first, second, third, fourth⟩ := same
  have := digit first
  have := digit second
  have := digit third
  have := digit fourth
  omega

variable {x y : List Char}

theorem Escaped.inj {c d : Char} {code code' : List Char} (escaped : Escaped c code)
    (escaped' : Escaped d code') (same : code ++ x = code' ++ y) : c = d ∧ x = y := by
  cases escaped with
  | copied unquoted unslashed =>
    cases escaped' with
    | copied => exact List.cons.inj same
    | named letter is | hex small => exact absurd (List.cons.inj same).1 unslashed
  | named letter is =>
    cases escaped' with
    | copied unquoted unslashed => exact absurd (List.cons.inj same).1.symm unslashed
    | named letter' is' =>
      obtain ⟨-, letters⟩ := List.cons.inj same
      obtain ⟨rfl, rest⟩ := List.cons.inj letters
      exact ⟨Option.some.inj (is.symm.trans is'), rest⟩
    | hex small =>
      obtain ⟨-, rest⟩ := List.cons.inj same
      obtain ⟨rfl, -⟩ := List.cons.inj rest
      cases is
  | hex small =>
    cases escaped' with
    | copied unquoted unslashed => exact absurd (List.cons.inj same).1.symm unslashed
    | named letter is =>
      obtain ⟨-, rest⟩ := List.cons.inj same
      obtain ⟨rfl, -⟩ := List.cons.inj rest
      cases is
    | hex small' =>
      obtain ⟨codes, rest⟩ := List.append_inj same rfl
      have same := hexEscape_inj small small' codes
      exact ⟨Char.toNat_inj.mp same, rest⟩

theorem Escaped.unquoted {c : Char} {code : List Char} (escaped : Escaped c code) :
    code ++ x ≠ '"' :: y := by
  intro same
  cases escaped with
  | copied unquoted _ => exact unquoted (List.cons.inj same).1
  | named | hex => cases (List.cons.inj same).1

def AgreeOn (e e' : Char → List Char) (text : String) : Prop := ∀ ch ∈ text.toList, e ch = e' ch

variable {text : String}

section

variable {e e' : Char → List Char} (codes : Codes e) (codes' : Codes e')

include codes codes'

/-- The end of a quoted text is found whatever stands behind it. -/
theorem quoted_inj {text text' : List Char}
    (same : text.flatMap e ++ '"' :: x = text'.flatMap e' ++ '"' :: y) :
    text = text' ∧ x = y ∧ ∀ ch ∈ text, e ch = e' ch := by
  induction text generalizing text' with
  | nil =>
    cases text' with
    | nil => exact ⟨rfl, (List.cons.inj same).2, nofun⟩
    | cons ch rest =>
      rw [List.flatMap_cons, List.append_assoc] at same
      exact absurd same.symm (codes' ch).unquoted
  | cons ch rest ih =>
    rw [List.flatMap_cons, List.append_assoc] at same
    cases text' with
    | nil => exact absurd same (codes ch).unquoted
    | cons ch' rest' =>
      rw [List.flatMap_cons, List.append_assoc] at same
      obtain ⟨rfl, tails⟩ := (codes ch).inj (codes' ch') same
      have code : e ch = e' ch := List.append_cancel_right (tails ▸ same)
      obtain ⟨rfl, is, agree⟩ := ih tails
      exact ⟨rfl, is, List.forall_mem_cons.mpr ⟨code, agree⟩⟩

theorem quoteBy_inj {text' : String} (same : quoteBy e text ++ x = quoteBy e' text' ++ y) :
    text = text' ∧ x = y ∧ AgreeOn e e' text := by
  unfold quoteBy at same
  simp only [List.cons_append, List.append_assoc, List.nil_append, List.cons.injEq, true_and] at same
  obtain ⟨is, rest⟩ := quoted_inj codes codes' same
  exact ⟨String.toList_inj.mp is, rest⟩

end

/-! ## Numbers -/

def numberChar (ch : Char) : Bool := ch.isDigit || ch == '-'

theorem toList_repr (n : Int) : n.repr.toList =
    (if n < 0 then ['-'] else []) ++ Nat.toDigits 10 n.natAbs := by
  have digits (m : Nat) : m.repr.toList = Nat.toDigits 10 m := by
    rw [Nat.repr_eq_ofList_toDigits, String.toList_ofList]
  cases n with
  | ofNat m => exact digits m
  | negSucc m =>
    change ("-" ++ m.succ.repr).toList = _
    rw [String.toList_append, digits, if_pos (Int.negSucc_lt_zero m), Int.natAbs_negSucc]
    simp

theorem isDigit_toDigits (mem : ch ∈ Nat.toDigits 10 n) : ch.isDigit = true :=
  Nat.isDigit_of_mem_toDigits (by decide) (by decide) mem

theorem numberChar_repr (n : Int) : ∀ ch ∈ n.repr.toList, numberChar ch = true := by
  intro ch mem
  rw [toList_repr] at mem
  unfold numberChar
  rcases List.mem_append.mp mem with minus | digit
  · split at minus
    · simp [List.mem_singleton.mp minus]
    · cases minus
  · simp [isDigit_toDigits digit]

theorem repr_ne_nil (n : Int) : n.repr.toList ≠ [] := by
  rw [toList_repr]
  exact List.append_ne_nil_of_right_ne_nil _ Nat.toDigits_ne_nil

theorem toDigits_inj {m : Nat} (same : Nat.toDigits 10 n = Nat.toDigits 10 m) : n = m := by
  rw [← Nat.ofDigitChars_toDigits (b := 10) (n := n) (by decide) (by decide), same,
    Nat.ofDigitChars_toDigits (by decide) (by decide)]

theorem repr_inj {n m : Int} (same : n.repr.toList = m.repr.toList) : n = m := by
  rw [toList_repr, toList_repr] at same
  -- a sign is not a digit
  have signed {k : Nat} {rest : List Char} : Nat.toDigits 10 k ≠ ['-'] ++ rest := by
    intro is
    have digit : ('-' : Char).isDigit = true := isDigit_toDigits (n := k) (by simp [is])
    exact absurd digit (by decide)
  split at same
  · split at same
    · have := toDigits_inj (List.append_cancel_left same)
      omega
    · exact absurd same.symm signed
  · split at same
    · exact absurd same signed
    · have := toDigits_inj (List.append_cancel_left same)
      omega

def Ends (rest : List Char) : Prop := ∀ ch, rest.head? = some ch → numberChar ch = false

theorem number_inj {left right : List Char} (number : ∀ ch ∈ left, numberChar ch = true)
    (number' : ∀ ch ∈ right, numberChar ch = true) (ends : Ends x) (ends' : Ends y)
    (same : left ++ x = right ++ y) : left = right ∧ x = y := by
  induction left generalizing right with
  | nil =>
    cases right with
    | nil => exact ⟨rfl, same⟩
    | cons ch rest =>
      have stop := ends ch (by rw [← List.nil_append x, same]; rfl)
      rw [number' ch List.mem_cons_self] at stop
      cases stop
  | cons ch rest ih =>
    cases right with
    | nil =>
      have stop := ends' ch (by rw [← List.nil_append y, ← same]; rfl)
      rw [number ch List.mem_cons_self] at stop
      cases stop
    | cons ch' rest' =>
      obtain ⟨rfl, tails⟩ := List.cons.inj same
      obtain ⟨rfl, is⟩ := ih (fun c mem => number c (.tail _ mem))
        (fun c mem => number' c (.tail _ mem)) tails
      exact ⟨rfl, is⟩

/-! ## Values -/

/-- What the first character of a text is the start of. -/
def startOf (ch : Char) : Nat :=
  if ch = 'n' then 0 else if ch = 't' ∨ ch = 'f' then 1 else if ch = '"' then 2
  else if ch = '[' then 3 else if ch = '\x7b' then 4 else if numberChar ch then 5 else 6

def start : Json → Nat
  | .null => 0
  | .bool _ => 1
  | .str _ => 2
  | .arr _ => 3
  | .obj _ => 4
  | .int _ => 5

private theorem startOf_numberChar (number : numberChar ch = true) : startOf ch = 5 := by
  unfold startOf
  have other {c : Char} (is : numberChar c = false) : ch ≠ c := by
    rintro rfl
    rw [number] at is
    cases is
  simp only [other (c := 'n') rfl, other (c := 't') rfl, other (c := 'f') rfl, other (c := '"') rfl,
    other (c := '[') rfl, other (c := '\x7b') rfl, number, or_self, if_false, if_true]

/-- The first character of a value says of which kind it is. -/
theorem charsBy_start (e : Char → List Char) (value : Json) :
    ∃ ch rest, value.charsBy e = ch :: rest ∧ startOf ch = value.start := by
  cases value with
  | null | arr items | obj fields => exact ⟨_, _, by rw [charsBy], rfl⟩
  | str value => exact ⟨_, _, charsBy.eq_5 e value, rfl⟩
  | bool value => cases value <;> exact ⟨_, _, by rw [charsBy], rfl⟩
  | int value =>
    obtain ⟨ch, rest, is⟩ := List.exists_cons_of_ne_nil (repr_ne_nil value)
    have number := numberChar_repr value ch (is ▸ (.head _))
    exact ⟨ch, rest, by rw [charsBy, is], startOf_numberChar number⟩

variable {value value' : Json}

theorem start_eq {e e' : Char → List Char}
    (same : value.charsBy e ++ x = value'.charsBy e' ++ y) : value.start = value'.start := by
  obtain ⟨ch, rest, is, start⟩ := charsBy_start e value
  obtain ⟨ch', rest', is', start'⟩ := charsBy_start e' value'
  rw [is, is'] at same
  rw [← start, ← start', (List.cons.inj same).1]

theorem charsBy_ne {e : Char → List Char}
    (other : startOf ch = 6) : value.charsBy e ++ x ≠ ch :: y := by
  intro same
  obtain ⟨ch', rest, is, start⟩ := charsBy_start e value
  rw [is] at same
  rw [(List.cons.inj same).1, other] at start
  cases value <;> cases start

theorem Ends.of_cons {rest : List Char} (is : numberChar ch = false) : Ends (ch :: rest) := by
  intro other head
  cases head
  exact is

mutual

def texts : Json → List String
  | .null | .bool _ | .int _ => []
  | .str value => [value]
  | .arr items => textsItems items
  | .obj fields => textsFields fields

def textsItems : List Json → List String
  | [] => []
  | item :: rest => texts item ++ textsItems rest

def textsFields : List (String × Json) → List String
  | [] => []
  | (name, value) :: rest => name :: (texts value ++ textsFields rest)

end

theorem textsItems_eq (items : List Json) : textsItems items = items.flatMap texts := by
  induction items with
  | nil => rfl
  | cons item rest ih => rw [textsItems, ih, List.flatMap_cons]

theorem textsFields_eq (fields : List (String × Json)) :
    textsFields fields = fields.flatMap fun field => field.1 :: texts field.2 := by
  induction fields with
  | nil => rfl
  | cons field rest ih => rw [textsFields, ih, List.flatMap_cons, List.cons_append]

section

variable {β : Type} {chars chars' : β → List Char} {texts : β → List String} {close : Char}
  {e e' : Char → List Char}

variable (chars chars' texts e e') in
/-- The characters of a part determine it, where it ends, and what the escape does to its texts. -/
def Reads (part : β) : Prop :=
  ∀ (part' : β) (x y : List Char), Ends x → Ends y → chars part ++ x = chars' part' ++ y →
    part = part' ∧ x = y ∧ ∀ text ∈ texts part, AgreeOn e e' text

theorem later_ends (stops : numberChar close = false) (parts : List (List Char)) :
    Ends (parts.flatMap (',' :: ·) ++ close :: x) := by
  cases parts with
  | nil => exact .of_cons stops
  | cons part rest => exact .of_cons rfl

theorem later_inj (stops : numberChar close = false) (apart : close ≠ ',') {parts parts' : List β}
    (reads : ∀ part ∈ parts, Reads chars chars' texts e e' part)
    (same : (parts.map chars).flatMap (',' :: ·) ++ close :: x =
      (parts'.map chars').flatMap (',' :: ·) ++ close :: y) :
    parts = parts' ∧ x = y ∧ ∀ text ∈ parts.flatMap texts, AgreeOn e e' text := by
  induction parts generalizing parts' with
  | nil =>
    cases parts' with
    | nil => exact ⟨rfl, (List.cons.inj same).2, nofun⟩
    | cons part rest => exact absurd (List.cons.inj same).1 apart
  | cons part rest ih =>
    cases parts' with
    | nil => exact absurd (List.cons.inj same).1.symm apart
    | cons part' rest' =>
      obtain ⟨first, others⟩ := List.forall_mem_cons.mp reads
      simp only [List.map_cons, List.flatMap_cons, List.cons_append, List.append_assoc,
        List.cons.injEq, true_and] at same
      obtain ⟨rfl, tails, agree⟩ := first part' _ _ (later_ends stops _) (later_ends stops _) same
      obtain ⟨rfl, ends, later⟩ := ih others tails
      exact ⟨rfl, ends, List.forall_mem_append.mpr ⟨agree, later⟩⟩

/-- Parts that are written alike, up to a character that closes them and starts none, are the same. -/
theorem joined_inj (stops : numberChar close = false) (apart : close ≠ ',') {parts parts' : List β}
    (opens : ∀ part x y, chars part ++ x ≠ close :: y)
    (opens' : ∀ part x y, chars' part ++ x ≠ close :: y)
    (reads : ∀ part ∈ parts, Reads chars chars' texts e e' part)
    (same : joined (parts.map chars) ++ close :: x = joined (parts'.map chars') ++ close :: y) :
    parts = parts' ∧ x = y ∧ ∀ text ∈ parts.flatMap texts, AgreeOn e e' text := by
  refine later_inj stops apart reads ?_
  cases parts with
  | nil =>
    cases parts' with
    | nil => exact same
    | cons part rest =>
      rw [List.map_cons, joined.eq_2, List.append_assoc] at same
      exact absurd same.symm (opens' _ _ _)
  | cons part rest =>
    cases parts' with
    | nil =>
      rw [List.map_cons, joined.eq_2, List.append_assoc] at same
      exact absurd same (opens _ _ _)
    | cons part' rest' => exact congrArg (List.cons ',') same

/-- A text determines its value, where the value ends, and what the escape does to its texts. -/
theorem charsBy_inj (codes : Codes e) (codes' : Codes e') (value : Json) :
    Reads (charsBy e) (charsBy e') Json.texts e e' value := by
  induction value with
  | null =>
    intro value' x y _ _ same
    cases value' <;> cases start_eq same
    rw [charsBy, charsBy] at same
    exact ⟨rfl, List.append_cancel_left same, nofun⟩
  | bool value =>
    intro value' x y _ _ same
    cases value' <;> cases start_eq same
    case bool.refl value' =>
      cases value <;> cases value' <;> rw [charsBy, charsBy] at same
      · exact ⟨rfl, List.append_cancel_left same, nofun⟩
      · cases (List.cons.inj same).1
      · cases (List.cons.inj same).1
      · exact ⟨rfl, List.append_cancel_left same, nofun⟩
  | int value =>
    intro value' x y ends ends' same
    cases value' <;> cases start_eq same
    case int.refl value' =>
      rw [charsBy, charsBy] at same
      obtain ⟨digits, rest⟩ := number_inj (numberChar_repr value) (numberChar_repr value') ends
        ends' same
      exact ⟨congrArg _ (repr_inj digits), rest, nofun⟩
  | str text =>
    intro value' x y _ _ same
    cases value' <;> cases start_eq same
    case str.refl text' =>
      rw [charsBy, charsBy] at same
      obtain ⟨rfl, rest, agree⟩ := quoteBy_inj codes codes' same
      exact ⟨rfl, rest, List.forall_mem_singleton.mpr agree⟩
  | arr items ih =>
    intro value' x y _ _ same
    cases value' <;> cases start_eq same
    case arr.refl items' =>
      simp only [charsBy, List.cons_append, List.append_assoc, List.nil_append, List.cons.injEq,
        true_and] at same
      rw [Json.texts, textsItems_eq]
      exact (joined_inj rfl (by decide) (fun _ _ _ => charsBy_ne rfl) (fun _ _ _ => charsBy_ne rfl) ih
        same).imp_left (congrArg _)
  | obj fields ih =>
    intro value' x y _ _ same
    cases value' <;> cases start_eq same
    case obj.refl fields' =>
      simp only [charsBy, List.cons_append, List.append_assoc, List.nil_append, List.cons.injEq,
        true_and] at same
      rw [Json.texts, textsFields_eq]
      refine (joined_inj rfl (by decide) (fun _ _ _ is => by cases (List.cons.inj is).1)
        (fun _ _ _ is => by cases (List.cons.inj is).1) ?_ same).imp_left (congrArg _)
      rintro ⟨name, value⟩ mem ⟨name', value'⟩ x y ends ends' same
      simp only [List.append_assoc, List.cons_append] at same
      obtain ⟨rfl, values, named⟩ := quoteBy_inj codes codes' same
      obtain ⟨rfl, tails, agree⟩ := ih _ mem value' _ _ ends ends' (List.cons.inj values).2
      exact ⟨rfl, tails, List.forall_mem_cons.mpr ⟨named, agree⟩⟩

theorem quoteBy_congr (agree : AgreeOn e e' text) : quoteBy e text = quoteBy e' text := by
  unfold quoteBy
  rw [List.flatMap_congr agree]

theorem charsBy_congr (value : Json) (agree : ∀ text ∈ value.texts, AgreeOn e e' text) :
    value.charsBy e = value.charsBy e' := by
  induction value with
  | null => rw [charsBy, charsBy]
  | bool value => cases value <;> rw [charsBy, charsBy]
  | int value => rw [charsBy, charsBy]
  | str text => rw [charsBy, charsBy, quoteBy_congr (agree text (.head _))]
  | arr items ih =>
    rw [Json.texts, textsItems_eq, List.forall_mem_flatMap] at agree
    rw [charsBy, charsBy, List.map_congr_left fun item mem => ih item mem (agree item mem)]
  | obj fields ih =>
    rw [Json.texts, textsFields_eq, List.forall_mem_flatMap] at agree
    rw [charsBy, charsBy, List.map_congr_left fun field mem => ?_]
    obtain ⟨name, value⟩ := List.forall_mem_cons.mp (agree field mem)
    rw [quoteBy_congr name, ih field mem value]

end

/-! ## Characters that only Go escapes -/

def goOnly (ch : Char) : Bool :=
  ch == '<' || ch == '>' || ch == '&' || ch.toNat == 0x2028 || ch.toNat == 0x2029

/-- The text has no character that only Go escapes. -/
def Plain (text : String) : Prop := ∀ ch ∈ text.toList, goOnly ch = false

instance (text : String) : Decidable (Plain text) :=
  decidable_of_iff (text.toList.all (!goOnly ·) = true) (by simp [Plain])

theorem goOnly_iff : goOnly ch = true ↔
    ch = '<' ∨ ch = '>' ∨ ch = '&' ∨ ch = '\u2028' ∨ ch = '\u2029' := by
  simp [goOnly, ← Char.toNat_inj, or_assoc]

theorem escapeChar_eq_iff : escapeChar ch = PyValue.escapeChar ch ↔ goOnly ch = false := by
  constructor
  · intro same
    by_contra special
    rcases goOnly_iff.mp (Bool.eq_true_of_not_eq_false special) with rfl | rfl | rfl | rfl | rfl
    all_goals exact absurd same (by decide)
  · intro plain
    unfold goOnly at plain
    simp only [Bool.or_eq_false_iff, beq_eq_false_iff_ne] at plain
    have control : (ch.toNat < 0x20 ∨ ch = '<' ∨ ch = '>' ∨ ch = '&' ∨ ch.toNat = 0x2028 ∨
        ch.toNat = 0x2029) ↔ ch.toNat < 0x20 := by tauto
    fun_cases escapeChar ch
    iterate 7 rfl
    · next escaped =>
      rw [PyValue.escapeChar.eq_8, if_pos (control.mp escaped)] <;> assumption
    · next unescaped =>
      rw [PyValue.escapeChar.eq_8, if_neg fun low => unescaped (control.mpr low)] <;> assumption

theorem codes_escapeChar : Codes escapeChar := by
  intro ch
  cases special : goOnly ch with
  | false =>
    rw [escapeChar_eq_iff.mpr special]
    exact codes_pyEscapeChar ch
  | true =>
    rcases goOnly_iff.mp special with rfl | rfl | rfl | rfl | rfl
    all_goals exact .hex (by decide)

/-- The text that Go writes for a value is the one that Python writes for another exactly if the values
are the same and their texts are plain. -/
theorem charsBy_eq_iff : value.charsBy escapeChar = value'.charsBy PyValue.escapeChar ↔
      value = value' ∧ ∀ text ∈ value.texts, Plain text := by
  constructor
  · intro same
    have ends : Ends [] := fun _ is => nomatch is
    obtain ⟨rfl, -, agree⟩ := charsBy_inj codes_escapeChar codes_pyEscapeChar value value' [] [] ends
      ends (by rw [same])
    exact ⟨rfl, fun text mem ch char => escapeChar_eq_iff.mp (agree text mem ch char)⟩
  · rintro ⟨rfl, plain⟩
    exact charsBy_congr value fun text mem ch char => escapeChar_eq_iff.mpr (plain text mem ch char)

/-! ## Canonical forms -/

mutual

def mapInts (f : Int → Int) : Json → Json
  | .int value => .int (f value)
  | .arr items => .arr (mapIntsItems f items)
  | .obj fields => .obj (mapIntsFields f fields)
  | .null => .null
  | .bool value => .bool value
  | .str value => .str value

def mapIntsItems (f : Int → Int) : List Json → List Json
  | [] => []
  | item :: rest => mapInts f item :: mapIntsItems f rest

def mapIntsFields (f : Int → Int) : List (String × Json) → List (String × Json)
  | [] => []
  | (name, value) :: rest => (name, mapInts f value) :: mapIntsFields f rest

end

theorem mapIntsItems_eq (f : Int → Int) (items : List Json) :
    mapIntsItems f items = items.map (mapInts f) := by
  induction items with
  | nil => rfl
  | cons item rest ih => rw [mapIntsItems, ih, List.map_cons]

theorem mapIntsFields_eq (f : Int → Int) (fields : List (String × Json)) :
    mapIntsFields f fields = fields.map fun field => (field.1, field.2.mapInts f) := by
  induction fields with
  | nil => rfl
  | cons field rest ih => rw [mapIntsFields, ih, List.map_cons]

@[simp] theorem mapInts_id (value : Json) : value.mapInts id = value := by
  induction value with
  | null | bool | int | str => rfl
  | arr items ih => rw [mapInts, mapIntsItems_eq, List.map_congr_left ih, List.map_id']
  | obj fields ih =>
    rw [mapInts, mapIntsFields_eq, List.map_congr_left fun field mem => by rw [ih field mem],
      List.map_id']

theorem inOrder_perm (fields : List (String × α)) : (inOrder fields).Perm fields :=
  List.perm_insertionSort _ _

theorem texts_mapInts (f : Int → Int) (value : Json) : (value.mapInts f).texts = value.texts := by
  induction value with
  | null | bool | int | str => rfl
  | arr items ih =>
    rw [mapInts, mapIntsItems_eq, texts, textsItems_eq, List.flatMap_map, List.flatMap_congr ih, texts,
      textsItems_eq]
  | obj fields ih =>
    rw [mapInts, mapIntsFields_eq, texts, textsFields_eq, List.flatMap_map,
      List.flatMap_congr fun field mem => by rw [ih field mem], texts, textsFields_eq]

theorem texts_canonical (value : Json) : value.canonical.texts.Perm value.texts := by
  induction value with
  | null | bool | int | str => rfl
  | arr items ih =>
    rw [canonical, canonicalItems_eq, texts, textsItems_eq, List.flatMap_map, texts, textsItems_eq]
    exact .flatMap_left _ ih
  | obj fields ih =>
    rw [canonical, texts, textsFields_eq, texts, textsFields_eq]
    refine ((inOrder_perm _).flatMap_right _).trans ?_
    rw [canonicalFields_eq, List.flatMap_map]
    exact .flatMap_left _ fun field mem => (ih field mem).cons _

theorem eq_of_perm_of_names {fields fields' : List (String × α)}
    (perm : fields.Perm fields') (names : fields.map Prod.fst = fields'.map Prod.fst)
    (distinct : (fields.map Prod.fst).Nodup) : fields = fields' := by
  induction fields generalizing fields' with
  | nil => exact (List.nil_perm.mp perm).symm
  | cons field rest ih =>
    cases fields' with
    | nil => cases names
    | cons field' rest' =>
      obtain ⟨name, value⟩ := field
      obtain ⟨name', value'⟩ := field'
      obtain ⟨same, namesRest⟩ := List.cons.inj names
      dsimp only at same
      subst same
      obtain ⟨fresh, distinctRest⟩ := List.nodup_cons.mp distinct
      -- the first name stands for one value on either side
      have first : (name, value) = (name, value') := by
        rcases List.mem_cons.mp (perm.subset (.head _)) with is | mem
        · exact is
        · have named : name ∈ rest'.map Prod.fst := List.mem_map.mpr ⟨_, mem, rfl⟩
          exact absurd (namesRest ▸ named) fresh
      cases first
      rw [ih (List.perm_cons _ |>.mp perm) namesRest distinctRest]

def AllPlain (value : Json) : Prop := ∀ text ∈ value.texts, Plain text

@[simp] theorem allPlain_str : AllPlain (.str text) ↔ Plain text := List.forall_mem_singleton

@[simp] theorem allPlain_int {n : Int} : AllPlain (.int n) ↔ True := by
  simp [AllPlain, texts]

@[simp] theorem allPlain_arr {items : List Json} : AllPlain (.arr items) ↔ ∀ item ∈ items, AllPlain item := by
  unfold AllPlain
  rw [texts, textsItems_eq]
  simp only [List.mem_flatMap, forall_exists_index, and_imp]
  exact ⟨fun all item mem text there => all text item mem there,
    fun all text item mem there => all item mem text there⟩

section

variable {members : α → List (String × Json)} {names : List String} {a : α}
  (named : ∀ a, (members a).map Prod.fst = names)

include named

/-- Objects with the same distinct names and one canonical form have the same values. -/
theorem canonical_members (distinct : names.Nodup) {b : α}
    (same : (Json.obj (members a)).canonical = (Json.obj (members b)).canonical) :
    (members a).map (fun field => field.2.canonical) =
      (members b).map fun field => field.2.canonical := by
  have keys (a : α) : (canonicalFields (members a)).map Prod.fst = names := by
    rw [canonicalFields_eq, List.map_map]
    exact named a
  have sorted : inOrder (canonicalFields (members a)) = inOrder (canonicalFields (members b)) :=
    Json.obj.inj same
  have perm := (inOrder_perm _).symm.trans (sorted ▸ inOrder_perm (canonicalFields (members b)))
  have second := congrArg (List.map Prod.snd)
    (eq_of_perm_of_names perm ((keys a).trans (keys b).symm) (keys a ▸ distinct))
  rw [canonicalFields_eq, canonicalFields_eq, List.map_map, List.map_map] at second
  exact second

theorem allPlain_members (plain : ∀ name ∈ names, Plain name) :
    AllPlain (.obj (members a)) ↔ ∀ field ∈ members a, AllPlain field.2 := by
  unfold AllPlain
  rw [texts, textsFields_eq]
  simp only [List.mem_flatMap, forall_exists_index, and_imp]
  refine ⟨fun all field mem text there => all text field mem (.tail _ there),
    fun all text field mem there => ?_⟩
  rcases List.mem_cons.mp there with rfl | there
  · exact plain _ (named a ▸ List.mem_map_of_mem mem)
  · exact all field mem text there

end

/-- Go writes a value, with its numbers changed, as Python writes another exactly if their canonical forms
agree and the texts are plain. -/
theorem render_eq_pyText_iff {f : Int → Int} : (value.mapInts f).canonical.render = value'.pyText ↔
      (value.mapInts f).canonical = value'.canonical ∧ value.AllPlain := by
  have texts (text : String) : text ∈ (value.mapInts f).canonical.texts ↔ text ∈ value.texts := by
    rw [(texts_canonical _).mem_iff, texts_mapInts]
  rw [← String.toList_inj, toList_render, pyText, String.toList_ofList, charsBy_eq_iff]
  simp only [texts, AllPlain]

end Json
