import SignalForge.Framing

/-! Text operations of the host language, on lists of characters. Case mappings follow the
Unicode tables, which are not reproduced: they are any that agree with ASCII on ASCII. -/

set_option autoImplicit false

namespace SignalForge

abbrev Str : Type := List Char

/-- `str.upper` and `str.lower`. -/
structure CaseMaps where
  upper : Str → Str
  lower : Str → Str
  upper_ascii : ∀ text : Str, (∀ c ∈ text, c.toNat < 128) → upper text = text.map Char.toUpper
  lower_ascii : ∀ text : Str, (∀ c ∈ text, c.toNat < 128) → lower text = text.map Char.toLower

/-- `c.isdigit()` and the digit `int` reads, by the Unicode tables: any that agree with ASCII.
Some digits, such as superscripts, `int` does not read. -/
structure DecimalDigits where
  isDigit : Char → Bool
  value? : Char → Option Nat
  isDigit_ascii : ∀ c : Char, c.toNat < 128 → isDigit c = c.isDigit
  value_ascii : ∀ c : Char, c.toNat < 128 →
    value? c = if c.isDigit then some (c.toNat - 48) else none

namespace Text

/-- `c.isspace()`. -/
def isSpace (c : Char) : Bool :=
  let code := c.toNat
  (9 ≤ code && code ≤ 13) || (28 ≤ code && code ≤ 32) || code = 0x85 || code = 0xa0 ||
    code = 0x1680 || (0x2000 ≤ code && code ≤ 0x200a) || code = 0x2028 || code = 0x2029 ||
    code = 0x202f || code = 0x205f || code = 0x3000

/-- `text.strip()`. -/
def strip (text : Str) : Str :=
  ((text.dropWhile isSpace).reverse.dropWhile isSpace).reverse

/-- `text.split()`. -/
def words (text : Str) : List Str := (text.splitOnP isSpace).filter (· ≠ [])

/-- `pattern in text`. -/
def contains (pattern text : Str) : Bool := (Framing.find? pattern text).isSome

/-- At most `turns` separators cut out of the text. -/
def splitTurns (separator : Str) : Nat → Str → List Str
  | 0, text => [text]
  | turns + 1, text =>
      match Framing.find? separator text with
      | none => [text]
      | some offset =>
          text.take offset :: splitTurns separator turns (text.drop (offset + separator.length))

/-- `text.split(separator)`. No text holds more separators than characters. -/
def split (separator text : Str) : List Str := splitTurns separator text.length text

/-- `text.split(separator, 1)`, where the separator is there. -/
def splitOnce (separator text : Str) : Option (Str × Str) :=
  (Framing.find? separator text).map fun offset =>
    (text.take offset, text.drop (offset + separator.length))

/-- What stands before the last separator of a text and after it, as `text.rpartition(separator)`
has them; the whole text is after where there is no separator. -/
def rpartition (separator : Char) (text : Str) : Str × Str :=
  let reversed := text.reverse
  ((reversed.dropWhile (· ≠ separator)).tail.reverse, (reversed.takeWhile (· ≠ separator)).reverse)

def isContinuation (byte : UInt8) : Bool := 0x80 ≤ byte && byte ≤ 0xBF

/-- A character of a lead byte's payload and so many continuation bytes, where the encoding
is the shortest and the code point is no surrogate. -/
def continued (least payload count : Nat) (rest : List UInt8) : Option (Char × Nat) :=
  let tail := rest.take count
  let code := tail.foldl (fun code byte => code * 64 + (byte.toNat - 0x80)) payload
  if tail.length = count ∧ tail.all isContinuation ∧ least ≤ code ∧ code.isValidChar then
    some (Char.ofNat code, count + 1)
  else none

/-- The UTF-8 character the bytes begin with, and its width. -/
def decodeChar : List UInt8 → Option (Char × Nat)
  | [] => none
  | byte :: rest =>
      let lead := byte.toNat
      if lead < 0x80 then some (Char.ofNat lead, 1)
      else if lead < 0xC0 then none
      else if lead < 0xE0 then continued 0x80 (lead - 0xC0) 1 rest
      else if lead < 0xF0 then continued 0x800 (lead - 0xE0) 2 rest
      else if lead < 0xF8 then continued 0x10000 (lead - 0xF0) 3 rest
      else none

/-- At most `turns` bytes or characters taken off the front. -/
def decodeTurns : Nat → List UInt8 → Str
  | 0, _ => []
  | _, [] => []
  | turns + 1, byte :: rest =>
      match decodeChar (byte :: rest) with
      | none => decodeTurns turns rest
      | some (c, width) => c :: decodeTurns turns ((byte :: rest).drop width)

/-- `raw.decode(errors="ignore")`. Skipping a malformed sequence byte by byte drops what
skipping its longest valid prefix drops: a continuation byte begins no character. -/
def decodeIgnoring (raw : List UInt8) : Str := decodeTurns raw.length raw

example : decodeIgnoring [0x41, 0xE2, 0x82, 0x42, 0xC3, 0xA9, 0xED, 0xA0, 0x80, 0xC0, 0x80] =
    ['A', 'B', 'é'] := by decide

def isLowerAlnum (c : Char) : Bool := ('a' ≤ c && c ≤ 'z') || ('0' ≤ c && c ≤ '9')

def isSeparator (c : Char) : Bool := c = '.' || c = '-' || c = '_'

/-- Whether the rest of an identifier matches, `inside` a run of letters and digits. -/
def matchesIdentifier (inside : Bool) : Str → Bool
  | [] => inside
  | c :: rest =>
      if isLowerAlnum c then matchesIdentifier true rest
      else inside && isSeparator c && matchesIdentifier false rest

/-- `^[a-z0-9]+([.\-_][a-z0-9]+)*$`. -/
def isIdentifier (text : Str) : Bool := matchesIdentifier false text

/-- The first part of a split at one character does not hold it. -/
theorem head_split_no_separator (separator : Char) (text head : Str)
    (first : (split [separator] text)[0]? = some head) : separator ∉ head := by
  have noneLeft : ∀ rest : Str, Framing.find? [separator] rest = none → separator ∉ rest := by
    intro rest absent member
    obtain ⟨before, after, rfl⟩ := List.append_of_mem member
    refine Framing.find?_eq_none (List.cons_ne_nil _ _) absent before.length ?_
    rw [Framing.OccursAt, List.drop_left]
    exact List.prefix_append [separator] after
  rw [split] at first
  cases turns : text.length with
  | zero =>
      rw [List.length_eq_zero_iff] at turns
      subst turns
      cases first
      exact List.not_mem_nil
  | succ turns =>
      rw [turns, splitTurns] at first
      split at first
      · rename_i absent
        cases first
        exact noneLeft text absent
      · rename_i offset found
        cases first
        intro member
        obtain ⟨place, inside, here⟩ := List.mem_take_iff_getElem.mp member
        have leftmost := Framing.find?_eq_some found
        refine leftmost.noEarlier place (by omega) ?_
        rw [Framing.OccursAt, List.drop_eq_getElem_cons (by omega), here]
        exact List.prefix_append [separator] _

theorem rpartition_append {separator : Char} {after : Str} (absent : separator ∉ after)
    (before : Str) : rpartition separator (before ++ separator :: after) = (before, after) := by
  have others : ∀ c ∈ after.reverse, decide (c ≠ separator) = true := by
    intro c member
    have different : c ≠ separator := fun same => absent (same ▸ List.mem_reverse.mp member)
    exact decide_eq_true different
  have reversed : (before ++ separator :: after).reverse =
      after.reverse ++ separator :: before.reverse := by
    rw [List.reverse_append, List.reverse_cons, List.append_assoc]
    rfl
  have stops : decide (separator ≠ separator) = false := decide_eq_false fun differs => differs rfl
  rw [rpartition]
  simp only [reversed]
  rw [List.dropWhile_append_of_pos others, List.takeWhile_append_of_pos others,
    List.dropWhile_cons_of_neg (by rw [stops]; exact Bool.false_ne_true),
    List.takeWhile_cons_of_neg (by rw [stops]; exact Bool.false_ne_true), List.tail_cons,
    List.reverse_reverse, List.append_nil, List.reverse_reverse]

/-- What follows the last separator, and what comes before it. -/
theorem split_last {left right leftEnd rightEnd : Str} {separator : Char}
    (absent : separator ∉ leftEnd) (otherAbsent : separator ∉ rightEnd)
    (same : left ++ separator :: leftEnd = right ++ separator :: rightEnd) :
    left = right ∧ leftEnd = rightEnd := by
  have parts := congrArg (rpartition separator) same
  rw [rpartition_append absent, rpartition_append otherAbsent] at parts
  exact Prod.mk.inj parts

/-- What comes before the first separator, and what follows it. -/
theorem split_first {left right leftEnd rightEnd : Str} {separator : Char}
    (absent : separator ∉ left) (otherAbsent : separator ∉ right)
    (same : left ++ separator :: leftEnd = right ++ separator :: rightEnd) :
    left = right ∧ leftEnd = rightEnd := by
  have backwards := congrArg List.reverse same
  simp only [List.reverse_append, List.reverse_cons, List.append_assoc,
    List.singleton_append] at backwards
  obtain ⟨ends, starts⟩ := split_last (mt List.mem_reverse.mp absent)
    (mt List.mem_reverse.mp otherAbsent) backwards
  exact ⟨List.reverse_injective starts, List.reverse_injective ends⟩

/-- An identifier is made of letters, digits and separators. -/
theorem mem_of_matchesIdentifier {text : Str} {inside : Bool}
    (accepted : matchesIdentifier inside text = true) {c : Char} (member : c ∈ text) :
    isLowerAlnum c = true ∨ isSeparator c = true := by
  induction text generalizing inside with
  | nil => cases member
  | cons first rest ih =>
      rw [matchesIdentifier] at accepted
      split at accepted
      · rename_i alnum
        rcases List.mem_cons.mp member with rfl | later
        · exact Or.inl alnum
        · exact ih accepted later
      · simp only [Bool.and_eq_true] at accepted
        rcases List.mem_cons.mp member with rfl | later
        · exact Or.inr accepted.1.2
        · exact ih accepted.2 later

theorem not_mem_identifier {text : Str} (accepted : isIdentifier text = true) {c : Char}
    (noAlnum : isLowerAlnum c = false) (noSeparator : isSeparator c = false) : c ∉ text := by
  intro member
  rcases mem_of_matchesIdentifier accepted member with alnum | separator
  · rw [noAlnum] at alnum
    cases alnum
  · rw [noSeparator] at separator
    cases separator

end Text

end SignalForge
