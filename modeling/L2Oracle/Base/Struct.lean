import L2Oracle.Base.Bytes
import Mathlib.Algebra.Order.Group.Int
import Mathlib.Tactic.Linarith

/-!
# Python's `struct`

A format string gives the layout of values in a byte string. Its first character sets the byte order and
says whether the sizes are standard ones or those of the host, here one with 64-bit words that is
little-endian. After it come codes, each behind an optional repeat count. The codes `n` and `N` stand for
`ssize_t` and `size_t` of the host, which have no standard size, so that they are codes in native mode
only. Values are integers and byte strings; the codes for characters, booleans, counted strings, floats
and pointers are told from bad ones, but nothing is packed with them.

The whole format is read before any value is looked at, so a format with a bad code is an error whatever
is packed. If a format of integers packs values, then it unpacks the same values, and what follows them
in the data does not matter.
-/

namespace Base.Struct

/-! ### Formats -/

inductive Order where
  | little
  | big
deriving DecidableEq, Repr

/-- What `struct.error` is raised for. -/
inductive Error where
  /-- Bad char in struct format. -/
  | badChar
  /-- A code of Python for values that there are none of here. -/
  | notModelled
  /-- Repeat count given without format specifier. -/
  | countWithoutCode
  /-- There are more values than the format packs, or fewer. -/
  | itemCount
  /-- Required argument is not an integer. -/
  | notAnInteger
  /-- Argument for `s` must be a bytes object. -/
  | notBytes
  /-- The integer is outside the range of its code. -/
  | outOfRange
  /-- The data ends before the format does. -/
  | bufferTooSmall
deriving DecidableEq, Repr

inductive Value where
  | int (n : Int)
  | bytes (bs : List UInt8)
deriving DecidableEq, Repr

/-- A piece of the layout. -/
inductive Field where
  /-- Zeros up to the next multiple of `n`. -/
  | align (n : Nat)
  | pad (n : Nat)
  | int (width : Nat) (signed : Bool)
  | bytes (n : Nat)
deriving DecidableEq, Repr

structure Format where
  order : Order
  fields : List Field
deriving DecidableEq, Repr

/-- The width of an integer code, and whether it is signed. -/
def intCode (native : Bool) : Char → Option (Nat × Bool)
  | 'b' => some (1, true)
  | 'B' => some (1, false)
  | 'h' => some (2, true)
  | 'H' => some (2, false)
  | 'i' => some (4, true)
  | 'I' => some (4, false)
  | 'l' => some (if native then 8 else 4, true)
  | 'L' => some (if native then 8 else 4, false)
  | 'q' => some (8, true)
  | 'Q' => some (8, false)
  | 'n' => if native then some (8, true) else none
  | 'N' => if native then some (8, false) else none
  | _ => none

/-- The fields of a code. In native mode an integer is aligned to its width. -/
def codeFields (native : Bool) (count : Nat) : Char → Option (List Field)
  | 'x' => some [.pad count]
  | 's' => some [.bytes count]
  | c =>
      (intCode native c).map fun (width, signed) =>
        (if native then [.align width] else []) ++ List.replicate count (.int width signed)

/-- The codes for other values than integers and byte strings. -/
def isOtherCode (native : Bool) (c : Char) : Bool :=
  c ∈ ['c', '?', 'p', 'e', 'f', 'd'] || (native && c = 'P')

/-- `Py_ISSPACE`. -/
def isSpace (c : Char) : Bool := c = ' ' || (9 ≤ c.toNat && c.toNat ≤ 13)

/-- The fields of the codes, where `count` is what was read of a repeat count. -/
def parseFields (native : Bool) : Option Nat → List Char → Except Error (List Field)
  | none, [] => .ok []
  | some _, [] => .error .countWithoutCode
  | count, c :: cs =>
      if count.isNone && isSpace c then parseFields native none cs
      else if c.isDigit then
        parseFields native (some (10 * count.getD 0 + (c.toNat - '0'.toNat))) cs
      else
        match codeFields native (count.getD 1) c with
        | none => .error (if isOtherCode native c then .notModelled else .badChar)
        | some fields => (parseFields native none cs).map (fields ++ ·)

def parse (fmt : String) : Except Error Format :=
  match fmt.toList with
  | '<' :: cs => (parseFields false none cs).map (.mk .little)
  | '>' :: cs | '!' :: cs => (parseFields false none cs).map (.mk .big)
  | '=' :: cs => (parseFields false none cs).map (.mk .little)
  | '@' :: cs => (parseFields true none cs).map (.mk .little)
  | cs => (parseFields true none cs).map (.mk .little)

/-! ### Packing and unpacking -/

/-- Bytes in little-endian order are put into the given one, or back. -/
def Order.arrange : Order → List UInt8 → List UInt8
  | little, bs => bs
  | big, bs => bs.reverse

/-- The number of bytes that a field takes at a position. -/
def Field.size (pos : Nat) : Field → Nat
  | align n => (n - pos % n) % n
  | pad n => n
  | int width _ => width
  | bytes n => n

def Field.takesValue : Field → Bool
  | align _ | pad _ => false
  | int .. | bytes _ => true

def InRange (width : Nat) (signed : Bool) (n : Int) : Prop :=
  if signed then -(256 ^ width / 2) ≤ n ∧ n < 256 ^ width / 2 else 0 ≤ n ∧ n < 256 ^ width

instance (width : Nat) (signed : Bool) (n : Int) : Decidable (InRange width signed n) :=
  inferInstanceAs (Decidable (ite _ _ _))

def packInt (order : Order) (width : Nat) (n : Int) : List UInt8 :=
  order.arrange (writeLE width (n % 256 ^ width).toNat)

def unpackInt (order : Order) (width : Nat) (signed : Bool) (bs : List UInt8) : Int :=
  let n := readLE (buffer (order.arrange bs) fun _ => 0) 0 width
  if signed && 256 ^ width ≤ 2 * n then n - 256 ^ width else n

/-- Packs the first values into the fields. -/
def packFields (order : Order) : Nat → List Field → List Value → Except Error (List UInt8)
  | _, [], [] => .ok []
  | _, [], _ :: _ => .error .itemCount
  | pos, field :: fields, vs =>
      let rest := packFields order (pos + field.size pos) fields
      match field, vs with
      | .align _, vs | .pad _, vs => (rest vs).map (List.replicate (field.size pos) 0 ++ ·)
      | .int width signed, .int n :: vs =>
          if InRange width signed n then (rest vs).map (packInt order width n ++ ·)
          else .error .outOfRange
      | .bytes n, .bytes bs :: vs => (rest vs).map ((bs ++ List.replicate n 0).take n ++ ·)
      | .int .., .bytes _ :: _ => .error .notAnInteger
      | .bytes _, .int _ :: _ => .error .notBytes
      | .int .., [] | .bytes _, [] => .error .itemCount

def pack (fmt : String) (vs : List Value) : Except Error (List UInt8) := do
  let format ← parse fmt
  if format.fields.countP Field.takesValue ≠ vs.length then .error .itemCount
  else packFields format.order 0 format.fields vs

def calcsize (pos : Nat) : List Field → Nat
  | [] => 0
  | field :: fields => field.size pos + calcsize (pos + field.size pos) fields

def unpackFields (order : Order) : Nat → List Field → List UInt8 → List Value
  | _, [], _ => []
  | pos, field :: fields, data =>
      let rest := unpackFields order (pos + field.size pos) fields (data.drop (field.size pos))
      match field with
      | .align _ | .pad _ => rest
      | .int width signed => .int (unpackInt order width signed (data.take width)) :: rest
      | .bytes n => .bytes (data.take n) :: rest

def unpackFrom (fmt : String) (data : List UInt8) (offset : Nat) : Except Error (List Value) := do
  let format ← parse fmt
  if data.length < offset + calcsize 0 format.fields then .error .bufferTooSmall
  else .ok (unpackFields format.order 0 format.fields (data.drop offset))

/-! ### What is packed is unpacked -/

theorem pack_of_parse_error {fmt : String} {e : Error} (h : parse fmt = .error e) (vs : List Value) :
    pack fmt vs = .error e := by
  rw [pack, h]
  rfl

theorem pack_eq_ok {fmt : String} {format : Format} (h : parse fmt = .ok format) {vs : List Value}
    {bs : List UInt8} :
    pack fmt vs = .ok bs ↔ format.fields.countP Field.takesValue = vs.length ∧
      packFields format.order 0 format.fields vs = .ok bs := by
  have hpack : pack fmt vs = if format.fields.countP Field.takesValue ≠ vs.length
      then .error .itemCount else packFields format.order 0 format.fields vs := by
    rw [pack, h]
    rfl
  rw [hpack]
  split <;> simp_all

theorem unpackFrom_of_parse {fmt : String} {format : Format} (h : parse fmt = .ok format)
    (data : List UInt8) (offset : Nat) :
    unpackFrom fmt data offset
      = if data.length < offset + calcsize 0 format.fields then .error .bufferTooSmall
        else .ok (unpackFields format.order 0 format.fields (data.drop offset)) := by
  rw [unpackFrom, h]
  rfl

theorem packFields_nil (order : Order) (pos : Nat) : packFields order pos [] [] = .ok [] := rfl

theorem map_eq_ok {α β ε : Type} {f : α → β} {x : Except ε α} {b : β} :
    x.map f = .ok b ↔ ∃ a, x = .ok a ∧ f a = b := by
  cases x with
  | error e => simp [Except.map]
  | ok a => simp [Except.map]

/-- An integer field packs one integer in the range of its code. -/
theorem packFields_int {order : Order} {pos width : Nat} {signed : Bool} {fields : List Field}
    {vs : List Value} {bs : List UInt8} :
    packFields order pos (.int width signed :: fields) vs = .ok bs ↔
      ∃ n rest tail, vs = .int n :: rest ∧ InRange width signed n ∧
        packFields order (pos + width) fields rest = .ok tail ∧ packInt order width n ++ tail = bs := by
  constructor
  · intro h
    cases vs with
    | nil => cases h
    | cons v rest =>
        cases v with
        | bytes b => cases h
        | int n =>
            by_cases hrange : InRange width signed n
            · rw [packFields, if_pos hrange] at h
              obtain ⟨tail, hrest, htail⟩ := map_eq_ok.mp h
              exact ⟨n, rest, tail, rfl, hrange, hrest, htail⟩
            · rw [packFields, if_neg hrange] at h
              cases h
  · rintro ⟨n, rest, tail, rfl, hrange, hrest, rfl⟩
    rw [packFields, if_pos hrange]
    exact map_eq_ok.mpr ⟨tail, hrest, rfl⟩

theorem packInt_natCast {width n : Nat} (h : n < 256 ^ width) :
    packInt .little width n = writeLE width n := by
  have hlow : ((n : Int) % 256 ^ width).toNat = n := by
    rw [Int.emod_eq_of_lt (Int.natCast_nonneg n) (by exact_mod_cast h), Int.toNat_natCast]
  rw [packInt, hlow, Order.arrange]

/-- A number in the range of its unsigned code is packed. -/
theorem packFields_unsigned {width n : Nat} (h : n < 256 ^ width) {pos : Nat} {fields : List Field}
    {vs : List Value} {bs : List UInt8} (hrest : packFields .little (pos + width) fields vs = .ok bs) :
    packFields .little pos (.int width false :: fields) (.int n :: vs)
      = .ok (writeLE width n ++ bs) := by
  have hrange : InRange width false n := ⟨Int.natCast_nonneg n, by exact_mod_cast h⟩
  exact packFields_int.mpr ⟨n, vs, bs, rfl, hrange, hrest, by rw [packInt_natCast h]⟩

/-- A number in the range of its signed code is packed. -/
theorem packFields_signed {width n : Nat} (h : n < 256 ^ width / 2) {pos : Nat} {fields : List Field}
    {vs : List Value} {bs : List UInt8} (hrest : packFields .little (pos + width) fields vs = .ok bs) :
    packFields .little pos (.int width true :: fields) (.int n :: vs)
      = .ok (writeLE width n ++ bs) := by
  have hhigh : (n : Int) < 256 ^ width / 2 := by exact_mod_cast h
  have hrange : InRange width true n := ⟨by omega, hhigh⟩
  exact packFields_int.mpr ⟨n, vs, bs, rfl, hrange, hrest, by rw [packInt_natCast (by omega)]⟩

theorem Order.arrange_arrange (order : Order) (bs : List UInt8) :
    order.arrange (order.arrange bs) = bs := by
  cases order with
  | little => rfl
  | big => exact List.reverse_reverse bs

@[simp] theorem length_packInt (order : Order) (width : Nat) (n : Int) :
    (packInt order width n).length = width := by
  cases order with
  | little => exact length_writeLE _ _
  | big => exact List.length_reverse.trans (length_writeLE _ _)

theorem unpackInt_packInt (order : Order) {width : Nat} {signed : Bool} {n : Int}
    (h : InRange width signed n) : unpackInt order width signed (packInt order width n) = n := by
  obtain ⟨top, htop⟩ : ∃ top : Int, top = 256 ^ width := ⟨_, rfl⟩
  have hpos : 0 < top := by
    rw [htop]
    positivity
  have hlow := Int.emod_nonneg n hpos.ne'
  have hhigh := Int.emod_lt_of_pos n hpos
  have hread : readLE (buffer (order.arrange (packInt order width n)) fun _ => 0) 0 width
      = (n % top).toNat := by
    have hlt : (n % top).toNat < 256 ^ width := by
      zify
      omega
    rw [packInt, order.arrange_arrange, ← htop, (spells_buffer _ _).readLE, Nat.mod_eq_of_lt hlt]
  have hcast : 256 ^ width ≤ 2 * (n % top).toNat ↔ top ≤ 2 * (n % top) := by
    zify
    omega
  unfold InRange at h
  unfold unpackInt
  rw [← htop] at h ⊢
  simp only [hread, hcast, Int.toNat_of_nonneg hlow, Bool.and_eq_true, decide_eq_true_eq]
  cases signed with
  | false =>
      simp only [Bool.false_eq_true, if_false, false_and] at h ⊢
      exact Int.emod_eq_of_lt h.1 h.2
  | true =>
      simp only [if_true, true_and] at h ⊢
      by_cases hneg : n < 0
      · have hwrap : n % top = n + top := by
          rw [← Int.add_emod_right, Int.emod_eq_of_lt (by omega) (by omega)]
        rw [hwrap, if_pos (by omega)]
        omega
      · rw [Int.emod_eq_of_lt (by omega) (by omega), if_neg (by omega)]

/-- What was packed is unpacked, whatever follows it in the data. -/
theorem unpackFields_packFields {order : Order} {fields : List Field}
    (hints : ∀ k, Field.bytes k ∉ fields) {pos : Nat} {vs : List Value} {bs : List UInt8}
    (h : packFields order pos fields vs = .ok bs) (rest : List UInt8) :
    bs.length = calcsize pos fields ∧ unpackFields order pos fields (bs ++ rest) = vs := by
  induction fields generalizing pos vs bs with
  | nil =>
      cases vs with
      | nil =>
          cases h
          exact ⟨rfl, rfl⟩
      | cons v vs => cases h
  | cons field fields ih =>
      have htail (k : Nat) : Field.bytes k ∉ fields := fun hk => hints k (List.mem_cons_of_mem _ hk)
      cases field with
      | align n | pad n =>
          obtain ⟨tail, hpacked, rfl⟩ := map_eq_ok.mp h
          obtain ⟨hlen, hvs⟩ := ih htail hpacked
          refine ⟨?_, ?_⟩
          · rw [List.length_append, List.length_replicate, hlen, calcsize]
          · rw [unpackFields, List.append_assoc, List.drop_left' List.length_replicate, hvs]
      | int width signed =>
          obtain ⟨n, vs, tail, rfl, hrange, hpacked, rfl⟩ := packFields_int.mp h
          obtain ⟨hlen, hvs⟩ := ih htail hpacked
          have hwidth : (packInt order width n).length = width := length_packInt order width n
          refine ⟨?_, ?_⟩
          · rw [List.length_append, hwidth, hlen, calcsize, Field.size]
          · rw [unpackFields, List.append_assoc, Field.size, List.take_left' hwidth,
              List.drop_left' hwidth, unpackInt_packInt order hrange]
            exact congrArg _ hvs
      | bytes n => exact absurd List.mem_cons_self (hints n)

theorem unpackFrom_pack {fmt : String} {format : Format} (hparse : parse fmt = .ok format)
    (hints : ∀ k, Field.bytes k ∉ format.fields) {vs : List Value} {bs : List UInt8}
    (h : pack fmt vs = .ok bs) (rest : List UInt8) : unpackFrom fmt (bs ++ rest) 0 = .ok vs := by
  obtain ⟨hlen, hvs⟩ := unpackFields_packFields hints ((pack_eq_ok hparse).mp h).2 rest
  have hlong : ¬ (bs ++ rest).length < 0 + calcsize 0 format.fields := by
    rw [List.length_append, hlen]
    omega
  rw [unpackFrom_of_parse hparse, if_neg hlong, List.drop_zero, hvs]

/-! ### Words are read in a row -/

/-- The word that stands in memory at `off`. -/
def wordAt (mem : Nat → UInt8) (off width : Nat) (signed : Bool) : Int :=
  let n := readLE mem off width
  if signed && 256 ^ width ≤ 2 * n then n - 256 ^ width else n

/-- The words of the given widths, signed or not, that stand in memory from `off` on. -/
def readWords (mem : Nat → UInt8) : Nat → List (Nat × Bool) → List Value
  | _, [] => []
  | off, (width, signed) :: words =>
      .int (wordAt mem off width signed) :: readWords mem (off + width) words

def wordFields (words : List (Nat × Bool)) : List Field := words.map fun w => .int w.1 w.2

theorem calcsize_words (pos : Nat) (words : List (Nat × Bool)) :
    calcsize pos (wordFields words) = (words.map Prod.fst).sum := by
  induction words generalizing pos with
  | nil => rfl
  | cons w words ih =>
      rw [wordFields, List.map_cons, calcsize, ← wordFields, ih, Field.size, List.map_cons, List.sum_cons]

theorem unpackFields_words (data : List UInt8) (beyond : Nat → UInt8) {words : List (Nat × Bool)}
    {pos off : Nat} (h : off + (words.map Prod.fst).sum ≤ data.length) :
    unpackFields .little pos (wordFields words) (data.drop off)
      = readWords (buffer data beyond) off words := by
  induction words generalizing pos off with
  | nil => rfl
  | cons w words ih =>
      rw [List.map_cons, List.sum_cons] at h
      have hword : readLE (buffer ((data.drop off).take w.1) fun _ => 0) 0 w.1
          = readLE (fun i => buffer data beyond (off + i)) 0 w.1 := by
        refine AgreeTo.readLE (fun i hi => ?_) (Nat.zero_add w.1).le
        have hlt : off + i < data.length := by omega
        simp [buffer, hi, hlt]
      rw [wordFields, List.map_cons, unpackFields, ← wordFields, Field.size, List.drop_drop,
        ih (by omega), readWords, unpackInt, Order.arrange, hword, readLE_shift]
      rfl

/-- A format of words in little-endian order unpacks what stands in the data. -/
theorem unpackFrom_words {fmt : String} {words : List (Nat × Bool)}
    (hparse : parse fmt = .ok ⟨.little, wordFields words⟩) {data : List UInt8} {off : Nat}
    (h : off + (words.map Prod.fst).sum ≤ data.length) (beyond : Nat → UInt8) :
    unpackFrom fmt data off = .ok (readWords (buffer data beyond) off words) := by
  rw [unpackFrom_of_parse hparse, calcsize_words, if_neg (Nat.not_lt.mpr h),
    unpackFields_words data beyond h]

theorem unpackFrom_drop (fmt : String) {data : List UInt8} {k : Nat} (h : k ≤ data.length)
    (off : Nat) : unpackFrom fmt (data.drop k) off = unpackFrom fmt data (k + off) := by
  cases hparse : parse fmt with
  | error e =>
      rw [unpackFrom, unpackFrom, hparse]
      rfl
  | ok format =>
      have hlen : (data.drop k).length < off + calcsize 0 format.fields
          ↔ data.length < k + off + calcsize 0 format.fields := by
        rw [List.length_drop]
        omega
      rw [unpackFrom_of_parse hparse, unpackFrom_of_parse hparse, List.drop_drop]
      simp only [hlen]

theorem wordAt_byte (mem : Nat → UInt8) (off : Nat) : wordAt mem off 1 false = (mem off).toNat := by
  simp [wordAt, readLE]

theorem wordAt_half (mem : Nat → UInt8) (off : Nat) :
    wordAt mem off 2 false = (UInt16.ofNat (readLE mem off 2)).toNat := by
  rw [UInt16.toNat_ofNat_of_lt' (readLE_lt mem off 2)]
  rfl

theorem wordAt_word (mem : Nat → UInt8) (off : Nat) :
    wordAt mem off 4 false = (UInt32.ofNat (readLE mem off 4)).toNat := by
  rw [UInt32.toNat_ofNat_of_lt' (readLE_lt mem off 4)]
  rfl

theorem wordAt_signed_half (mem : Nat → UInt8) (off : Nat) :
    wordAt mem off 2 true = (UInt16.ofNat (readLE mem off 2)).toInt16.toInt := by
  have hlt : readLE mem off 2 < 2 ^ 16 := readLE_lt mem off 2
  have hint : (UInt16.ofNat (readLE mem off 2)).toInt16.toInt
      = if 2 * readLE mem off 2 < 2 ^ 16 then (readLE mem off 2 : Int)
        else (readLE mem off 2 : Int) - 2 ^ 16 := by
    have htoNat := UInt16.toNat_ofNat_of_lt' hlt
    rw [← Int16.toInt_toBitVec, UInt16.toBitVec_toInt16, BitVec.toInt, UInt16.toNat_toBitVec, htoNat]
    norm_cast
  rw [hint]
  simp only [wordAt, Bool.true_and, decide_eq_true_eq]
  split <;> split <;> omega

end Base.Struct
