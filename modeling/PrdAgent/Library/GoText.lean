import Mathlib.Data.List.DropRight

/-!
# Strings of the Go standard library

The string functions a Go program uses, as executable functions on `String`. `joinKey_inj` and
`joinNul_inj` say when a key built by joining parts with a NUL character determines its parts.

`chars` and `ofChars` are `String.toList` and `String.ofList` (`chars_eq`, `ofChars_eq`), written so
that the kernel evaluates them in time linear in the length of an ASCII text.
-/

namespace GoText

/-! ## Characters and bytes -/

def ofChars (chars : List Char) : String :=
  .ofByteArray ⟨⟨chars.flatMap String.utf8EncodeChar⟩⟩
    (.intro chars (ByteArray.ext List.data_toByteArray.symm))

@[simp] theorem ofChars_eq (chars : List Char) : ofChars chars = String.ofList chars := by
  unfold ofChars String.ofList
  congr 1
  exact ByteArray.ext List.data_toByteArray.symm

def bytesOf (text : String) : List UInt8 := text.toUTF8.data.toList

theorem bytesOf_eq (text : String) : bytesOf text = text.toList.flatMap String.utf8EncodeChar := by
  have same : text = String.ofList text.toList := by simp
  unfold bytesOf
  conv_lhs => rw [same]
  simp [String.ofList, List.utf8Encode]

def isAscii (byte : UInt8) : Bool := byte < 0x80

/-- The characters of a text. The bytes of an ASCII text are its characters. -/
def chars (text : String) : List Char :=
  if (bytesOf text).all isAscii then (bytesOf text).map fun byte => Char.ofNat byte.toNat
  else text.toList

theorem not_isAscii {n : Nat} (high : 128 ≤ n) (low : n < 256) :
    ¬ isAscii (UInt8.ofNat n) = true := by
  unfold isAscii
  rw [decide_eq_true_iff, UInt8.lt_iff_toNat_lt, UInt8.toNat_ofNat', Nat.mod_eq_of_lt low]
  exact Nat.not_lt.mpr high

/-- A character that is encoded in ASCII is its only byte: a longer encoding starts with a byte
from 192 on. -/
theorem utf8EncodeChar_of_ascii {ch : Char}
    (ascii : (String.utf8EncodeChar ch).all isAscii = true) :
    (String.utf8EncodeChar ch).map (fun byte => Char.ofNat byte.toNat) = [ch] := by
  unfold String.utf8EncodeChar at ascii ⊢
  dsimp only at ascii ⊢
  split
  · next small =>
    have back : (UInt8.ofNat ch.val.toNat).toNat = ch.toNat := by
      rw [UInt8.toNat_ofNat']
      exact Nat.mod_eq_of_lt (by change ch.val.toNat < 256; omega)
    rw [List.map_singleton, back, Char.ofNat_toNat]
  · next large =>
    rw [if_neg large] at ascii
    split at ascii
    · rw [List.all_cons, Bool.and_eq_true] at ascii
      exact absurd ascii.1 (not_isAscii (by omega) (by omega))
    split at ascii
    · rw [List.all_cons, Bool.and_eq_true] at ascii
      exact absurd ascii.1 (not_isAscii (by omega) (by omega))
    · rw [List.all_cons, Bool.and_eq_true] at ascii
      exact absurd ascii.1 (not_isAscii (by omega) (by omega))

theorem flatMap_utf8EncodeChar_of_ascii {list : List Char}
    (ascii : ∀ ch ∈ list, (String.utf8EncodeChar ch).all isAscii = true) :
    (list.flatMap fun ch =>
      (String.utf8EncodeChar ch).map fun byte => Char.ofNat byte.toNat) = list := by
  induction list with
  | nil => rfl
  | cons ch rest ih =>
    rw [List.flatMap_cons, utf8EncodeChar_of_ascii (ascii ch (.head _)),
      ih fun other mem => ascii other (.tail _ mem)]
    rfl

@[simp] theorem chars_eq (text : String) : chars text = text.toList := by
  unfold chars
  split
  · next ascii =>
    rw [bytesOf_eq, List.all_flatMap] at ascii
    rw [bytesOf_eq, List.map_flatMap]
    exact flatMap_utf8EncodeChar_of_ascii (List.all_eq_true.mp ascii)
  · rfl

/-! ## String functions -/

/-- `unicode.IsSpace`: the characters with the White_Space property. -/
def isSpace (ch : Char) : Bool :=
  let n := ch.toNat
  (0x09 ≤ n && n ≤ 0x0D) || n == 0x20 || n == 0x85 || n == 0xA0 || n == 0x1680 ||
    (0x2000 ≤ n && n ≤ 0x200A) || n == 0x2028 || n == 0x2029 || n == 0x202F || n == 0x205F ||
    n == 0x3000

/-- `strings.TrimSpace`. -/
def trimSpace (text : String) : String :=
  ofChars ((((chars text).dropWhile isSpace).reverse.dropWhile isSpace).reverse)

/-- `strings.HasPrefix`. -/
def hasPrefix (text lead : String) : Bool := (chars lead).isPrefixOf (chars text)

/-- `strings.TrimPrefix`. -/
def trimPrefix (text lead : String) : String :=
  if hasPrefix text lead then ofChars ((chars text).drop (chars lead).length) else text

/-- `strings.Contains`. -/
def contains (text part : String) : Bool := (chars text).tails.any (chars part).isPrefixOf

/-- The digits `hex.DecodeString` accepts. -/
def isHexDigit (ch : Char) : Bool :=
  ('0' ≤ ch && ch ≤ '9') || ('a' ≤ ch && ch ≤ 'f') || ('A' ≤ ch && ch ≤ 'F')

/-- The digits `hex.EncodeToString` writes. -/
def isLowerHexDigit (ch : Char) : Bool :=
  ('0' ≤ ch && ch ≤ '9') || ('a' ≤ ch && ch ≤ 'f')

/-- The number a lower-case hexadecimal text denotes. -/
def hexValue (text : String) : Nat :=
  text.toList.foldl (fun acc ch =>
    acc * 16 + (if ch ≤ '9' then ch.toNat - '0'.toNat else ch.toNat - 'a'.toNat + 10)) 0

/-- `strconv.Itoa`. -/
def itoa (n : Int) : String := toString n

def mapChars (f : Char → Char) (text : String) : String := ofChars ((chars text).map f)

/-! ## Times -/

/-- The year, month and day of the Gregorian calendar, so many days after 1970-01-01. The year is
taken to start in March, as the leap day ends it then. -/
def civil (days : Int) : Int × Int × Int :=
  let shifted := days + 719468
  let day := shifted % 146097
  let year := (day - day / 1460 + day / 36524 - day / 146096) / 365
  let rest := day - (365 * year + year / 4 - year / 100)
  let month := (5 * rest + 2) / 153
  (year + shifted / 146097 * 400 + month / 10, (month + 2) % 12 + 1, rest - (153 * month + 2) / 5 + 1)

def padded (width : Nat) (n : Int) : List Char :=
  let digits := chars (itoa n)
  List.replicate (width - digits.length) '0' ++ digits

/-- `Time.Format` with the layout `time.RFC3339Nano`, of a time in nanoseconds since 1970. -/
def rfc3339Nano (time : Int) : String :=
  let seconds := time / 1000000000
  let nanos := time % 1000000000
  let (year, month, day) := civil (seconds / 86400)
  let fraction := if nanos = 0 then [] else '.' :: (padded 9 nanos).rdropWhile (· == '0')
  ofChars (padded 4 year ++ '-' :: padded 2 month ++ '-' :: padded 2 day ++
    'T' :: padded 2 (seconds % 86400 / 3600) ++ ':' :: padded 2 (seconds % 3600 / 60) ++
    ':' :: padded 2 (seconds % 60) ++ fraction ++ ['Z'])

example : rfc3339Nano 1709251199500000000 = "2024-02-29T23:59:59.5Z" := by decide +kernel

/-! ## Keys -/

/-- `strings.Join(parts, "\x00")`. -/
def joinNul : List String → String
  | [] => ""
  | [part] => part
  | part :: rest => part ++ "\x00" ++ joinNul rest

/-- The map key `left + "\x00" + right`. -/
def joinKey (left right : String) : String := left ++ "\x00" ++ right

/-- The text has no NUL character. -/
def NulFree (text : String) : Prop := '\x00' ∉ text.toList

instance (text : String) : Decidable (NulFree text) :=
  inferInstanceAs (Decidable (¬ '\x00' ∈ text.toList))

private theorem append_cons_cancel {α : Type} {sep : α} :
    ∀ {l l' r r' : List α}, sep ∉ l → sep ∉ l' → l ++ sep :: r = l' ++ sep :: r' →
      l = l' ∧ r = r'
  | [], [], _, _, _, _, same => ⟨rfl, (List.cons.inj same).2⟩
  | [], x :: l', _, _, _, free', same => by
    have head := (List.cons.inj same).1
    simp [head] at free'
  | x :: l, [], _, _, free, _, same => by
    have head := (List.cons.inj same).1
    simp [head] at free
  | x :: l, x' :: l', _, _, free, free', same => by
    obtain ⟨head, tail⟩ := List.cons.inj same
    obtain ⟨left, right⟩ := append_cons_cancel
      (fun mem => free (.tail _ mem))
      (fun mem => free' (.tail _ mem)) tail
    exact ⟨by rw [head, left], right⟩

/-- A joined key determines its parts when the left parts have no NUL character. -/
theorem joinKey_inj {left left' right right' : String}
    (free : NulFree left) (free' : NulFree left')
    (same : joinKey left right = joinKey left' right') :
    left = left' ∧ right = right' := by
  have chars : left.toList ++ '\x00' :: right.toList = left'.toList ++ '\x00' :: right'.toList := by
    have := congrArg String.toList same
    simpa [joinKey, String.toList_append] using this
  obtain ⟨l, r⟩ := append_cons_cancel free free' chars
  exact ⟨String.toList_inj.mp l, String.toList_inj.mp r⟩

theorem count_joinNul (part : String) (rest : List String) :
    (joinNul (part :: rest)).toList.count '\x00' =
      ((part :: rest).flatMap String.toList).count '\x00' + rest.length := by
  induction rest generalizing part with
  | nil => simp [joinNul]
  | cons next rest ih =>
    rw [List.flatMap_cons, List.count_append, List.length_cons, joinNul, String.toList_append,
      String.toList_append, List.count_append, List.count_append, ih,
      show "\x00".toList.count '\x00' = 1 by decide]
    · omega
    · exact nofun

/-- A join of texts without NUL characters determines them, among joins of as many texts. -/
theorem joinNul_inj {parts parts' : List String} (free : ∀ part ∈ parts, NulFree part)
    (length : parts.length = parts'.length) (same : joinNul parts = joinNul parts') :
    parts = parts' := by
  induction parts generalizing parts' with
  | nil => exact (List.length_eq_zero_iff.mp length.symm).symm
  | cons part rest ih =>
    match rest, parts', length with
    | [], [part'], _ => rw [show part = part' from same]
    | next :: rest, part' :: next' :: rest', length =>
      have shorter := Nat.succ.inj length
      -- the separators are all NUL characters of the join
      have none : ((part :: next :: rest).flatMap String.toList).count '\x00' = 0 :=
        List.count_eq_zero.mpr fun mem => have ⟨text, there, has⟩ := List.mem_flatMap.mp mem
          free text there has
      have count := count_joinNul part' (next' :: rest')
      rw [← same, count_joinNul, none, shorter, List.flatMap_cons, List.count_append] at count
      have free' : NulFree part' := List.count_eq_zero.mp (by omega)
      obtain ⟨rfl, tail⟩ := joinKey_inj (free part (.head _)) free' same
      rw [ih (fun text mem => free text (.tail _ mem)) shorter tail]

theorem hexDigit_of_lower {ch : Char} (lower : isLowerHexDigit ch = true) :
    isHexDigit ch = true := by
  simp only [isLowerHexDigit, Bool.or_eq_true] at lower
  simp only [isHexDigit, Bool.or_eq_true]
  exact .inl lower

theorem NulFree.append {left right : String} (free : NulFree left) (free' : NulFree right) :
    NulFree (left ++ right) := by
  simp only [NulFree, String.toList_append, List.mem_append, not_or]
  exact ⟨free, free'⟩

end GoText
