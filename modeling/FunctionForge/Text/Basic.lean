/-!
# Sizes, digits and parts of texts

Offsets and lengths count the bytes of the UTF-8 encoding, so they are sums of character sizes.
Numbers are read from digits in a base and written in decimal, with zeros on the left where a width
asks for them. A dotted name is read as the segments between its dots, and a name without a dot is
one segment.
-/

namespace FunctionForge.Text

/-! ### Sizes in bytes -/

/-- The number of bytes that the characters take in UTF-8. -/
def byteLength : List Char → Nat
  | [] => 0
  | c :: rest => c.utf8Size + byteLength rest

@[simp] theorem byteLength_nil : byteLength [] = 0 := rfl

@[simp] theorem byteLength_cons (c : Char) (rest : List Char) :
    byteLength (c :: rest) = c.utf8Size + byteLength rest := rfl

@[simp] theorem byteLength_append (left right : List Char) :
    byteLength (left ++ right) = byteLength left + byteLength right := by
  induction left with
  | nil => simp
  | cons c rest ih => simp [ih, Nat.add_assoc]

theorem byteLength_replicate (n : Nat) (c : Char) :
    byteLength (List.replicate n c) = n * c.utf8Size := by
  induction n with
  | zero => simp
  | succ n ih => rw [List.replicate_succ, byteLength_cons, ih, Nat.succ_mul, Nat.add_comm]

theorem byteLength_eq_utf8ByteSize (text : List Char) :
    byteLength text = (String.ofList text).utf8ByteSize := by
  induction text with
  | nil => rfl
  | cons c rest ih =>
    have hsplit : String.ofList (c :: rest) = String.singleton c ++ String.ofList rest := by
      rw [String.singleton_eq_ofList, ← String.ofList_append]
      rfl
    rw [byteLength_cons, ih, hsplit, String.utf8ByteSize_append, String.utf8ByteSize_singleton]

/-- The number of bytes that a string takes in UTF-8. -/
def size (s : String) : Nat := byteLength s.toList

@[simp] theorem size_append (s t : String) : size (s ++ t) = size s + size t := by
  simp [size]

theorem size_eq_utf8ByteSize (s : String) : size s = s.utf8ByteSize := by
  rw [size, byteLength_eq_utf8ByteSize, String.ofList_toList]

theorem fromUTF8?_eq_some_iff {content : ByteArray} {text : String} :
    String.fromUTF8? content = some text ↔ content = text.toUTF8 := by
  rw [String.fromUTF8?]
  refine ⟨fun h => ?_, fun h => ?_⟩
  · split at h
    · cases h
      rfl
    · cases h
  · subst h
    exact dif_pos text.isValidUTF8

/-! ### Digits -/

def isDigit (c : Char) : Bool := '0' ≤ c && c ≤ '9'

/-- The value of a character as a digit of a base up to sixteen. -/
def digit? (base : Nat) (c : Char) : Option Nat :=
  let value :=
    if isDigit c then c.toNat - '0'.toNat
    else if 'a' ≤ c && c ≤ 'f' then c.toNat - 'a'.toNat + 10
    else if 'A' ≤ c && c ≤ 'F' then c.toNat - 'A'.toNat + 10
    else base
  if value < base then some value else none

/-- The number that digits of a base write, none if one of the characters is no digit. -/
def number? (base : Nat) (digits : List Char) : Option Nat :=
  digits.foldlM (fun n c => (digit? base c).map (base * n + ·)) 0

def decimal (n : Nat) : List Char := (toString n).toList

/-- The decimal digits of a number with zeros on the left up to a width. -/
def padded (width n : Nat) : List Char :=
  List.replicate (width - (decimal n).length) '0' ++ decimal n

def trimZeros (digits : List Char) : List Char := (digits.reverse.dropWhile (· = '0')).reverse

/-! ### Dotted names -/

/-- The parts of a text between the occurrences of a separator. -/
def splitAt (separator : Char) : List Char → List (List Char)
  | [] => [[]]
  | c :: rest =>
    if c = separator then [] :: splitAt separator rest
    else match splitAt separator rest with
      | [] => [[c]]
      | part :: parts => (c :: part) :: parts

theorem splitAt_ne_nil (separator : Char) (text : List Char) : splitAt separator text ≠ [] := by
  cases text with
  | nil => simp [splitAt]
  | cons c rest =>
    rw [splitAt]
    split
    · simp
    · split <;> simp

theorem splitAt_of_not_mem {separator : Char} {text : List Char} (h : separator ∉ text) :
    splitAt separator text = [text] := by
  induction text with
  | nil => rfl
  | cons c rest ih =>
    simp only [List.mem_cons, not_or] at h
    rw [splitAt, if_neg (Ne.symm h.1), ih h.2]

theorem splitAt_append_cons (separator : Char) (first rest : List Char) :
    splitAt separator (first ++ separator :: rest) =
      splitAt separator first ++ splitAt separator rest := by
  induction first with
  | nil => simp [splitAt]
  | cons c first ih =>
    rw [List.cons_append, splitAt, splitAt]
    split
    · rw [ih, List.cons_append]
    · rw [ih]
      cases hsplit : splitAt separator first with
      | nil => exact absurd hsplit (splitAt_ne_nil separator first)
      | cons part parts => rfl

theorem not_mem_of_mem_splitAt {separator : Char} {text part : List Char}
    (h : part ∈ splitAt separator text) : separator ∉ part := by
  induction text generalizing part with
  | nil => simp_all [splitAt]
  | cons c rest ih =>
    rw [splitAt] at h
    split at h
    · rcases List.mem_cons.1 h with rfl | h
      · simp
      · exact ih h
    · next hc =>
      split at h
      · simp only [List.mem_singleton] at h
        subst h
        simp [Ne.symm hc]
      · next first others hrest =>
        rcases List.mem_cons.1 h with rfl | h
        · simp [Ne.symm hc, ih (hrest ▸ List.mem_cons_self)]
        · exact ih (hrest ▸ List.mem_cons_of_mem _ h)

theorem filter_splitAt_replicate (separator : Char) (n : Nat) (text : List Char) :
    (splitAt separator (List.replicate n separator ++ text)).filter (· ≠ []) =
      (splitAt separator text).filter (· ≠ []) := by
  induction n with
  | zero => rfl
  | succ n ih =>
    rw [List.replicate_succ, List.cons_append, splitAt, if_pos rfl, List.filter_cons_of_neg, ih]
    simp

def segments (name : String) : List String := (splitAt '.' name.toList).map String.ofList

/-- Whether a name has more than one segment. -/
def isDotted (name : String) : Bool := name.toList.contains '.'

def lastSegment (name : String) : String :=
  String.ofList ((splitAt '.' name.toList).getLast (splitAt_ne_nil _ _))

/-- A name inside a package; the empty package adds nothing. -/
def qualify (package name : String) : String :=
  if package = "" then name else package ++ "." ++ name

end FunctionForge.Text
