import Mathlib.Data.Nat.Digits

/-! The integer parsers of `llvm::StringRef` the sources call (`StringRef.cpp`):
`consumeInteger` at an unsigned type, for `QEC_MAX_THREADS`, and
`getAsSignedInteger`, for `--emit-bytecode-version`. The string is consumed from
the front, so it is the state of an `EStateM` computation, `.error` being the
"failed" return; radix `0` takes the radix from a C-style prefix. Proved: the
overflow test fires exactly at `2 ^ 64`; the unsigned parse reads the longest run
of digits after the prefix and leaves the rest; the signed parse of a whole string
accepts exactly a numeral within `long long`, which printing reads back. -/

namespace QECompiler.StringRef

/-- `GetAutoSenseRadix`: the radix a prefix names, with the prefix consumed. -/
def getAutoSenseRadix : List Char → Nat × List Char
  | '0' :: 'x' :: s | '0' :: 'X' :: s => (16, s)
  | '0' :: 'b' :: s | '0' :: 'B' :: s => (2, s)
  | '0' :: 'o' :: s => (8, s)
  | '0' :: d :: s => if d.isDigit then (8, d :: s) else (10, '0' :: d :: s)
  | s => (10, s)

/-- The value the digit loop gives a character, in any radix up to 36. -/
def charVal (c : Char) : Option Nat :=
  if '0' ≤ c ∧ c ≤ '9' then some (c.toNat - '0'.toNat)
  else if 'a' ≤ c ∧ c ≤ 'z' then some (c.toNat - 'a'.toNat + 10)
  else if 'A' ≤ c ∧ c ≤ 'Z' then some (c.toNat - 'A'.toNat + 10)
  else none

/-- The loop of `consumeUnsignedInteger` from the accumulator `result`, in
`unsigned long long` arithmetic: `none` when the overflow test fires, else the
value and the unconsumed rest. -/
def consumeDigits (radix result : Nat) : List Char → Option (Nat × List Char)
  | [] => some (result, [])
  | c :: str2 =>
    match charVal c with
    | none => some (result, c :: str2)
    | some charVal =>
      if radix ≤ charVal then some (result, c :: str2)
      else
        let next := (result * radix + charVal) % 2 ^ 64
        if next / radix < result then none else consumeDigits radix next str2

def consumeUnsignedInteger (radix : Nat) : EStateM Unit (List Char) Nat := fun str =>
  match if radix = 0 then getAutoSenseRadix str else (radix, str) with
  | (radix, str) =>
    if str = [] then .error () str
    else
      match consumeDigits radix 0 str with
      | none => .error () str
      | some (result, str2) =>
        if str.length = str2.length then .error () str else .ok result str2

/-- `consumeInteger` at an unsigned type of `width` bits: it fails, with the digits
already consumed, when the value does not survive the cast to that type. -/
def consumeInteger (width radix : Nat) : EStateM Unit (List Char) Nat := fun str =>
  match consumeUnsignedInteger radix str with
  | .ok result str => if result < 2 ^ width then .ok result str else .error () str
  | .error () str => .error () str

/-! ### What the parse reads -/

/-- Whether the loop reads `c` as a digit of `radix`. -/
def isDigitOf (radix : Nat) (c : Char) : Bool :=
  match charVal c with
  | some v => decide (v < radix)
  | none => false

/-- The value of a digit. -/
def digitVal (c : Char) : Nat := (charVal c).getD 0

/-- The numeral at the front of `t` in `radix`: its longest run of digits, most
significant first. -/
def numeralIn (radix : Nat) (t : List Char) : Option Nat :=
  match t.takeWhile (isDigitOf radix) with
  | [] => none
  | run => some (Nat.ofDigits radix (run.reverse.map digitVal))

/-- The numeral at the front of `s`, in the radix its prefix selects: the longest
run of digits after the prefix, most significant first. -/
def leadingNumeral (s : List Char) : Option Nat :=
  match getAutoSenseRadix s with
  | (radix, t) =>
    match t.takeWhile (isDigitOf radix) with
    | [] => none
    | run => some (Nat.ofDigits radix (run.reverse.map digitVal))

/-- What follows the leading numeral. -/
def numeralRest (s : List Char) : List Char :=
  (getAutoSenseRadix s).2.dropWhile (isDigitOf (getAutoSenseRadix s).1)

theorem getAutoSenseRadix_radix (s : List Char) :
    2 ≤ (getAutoSenseRadix s).1 ∧ (getAutoSenseRadix s).1 ≤ 16 := by
  unfold getAutoSenseRadix
  split <;> (try split) <;> simp

/-- The overflow test of the loop: dividing the wrapped sum back by the radix falls
below the previous value exactly when the sum reached `2 ^ 64`. -/
theorem overflow_test_iff {result radix v : Nat} (hv : v < radix)
    (hradix : radix ≤ 2 ^ 64) :
    (result * radix + v) % 2 ^ 64 / radix < result ↔ 2 ^ 64 ≤ result * radix + v := by
  have hpos : 0 < radix := by omega
  rw [Nat.div_lt_iff_lt_mul hpos]
  constructor
  · intro h
    by_contra hlt
    rw [Nat.mod_eq_of_lt (by omega)] at h
    omega
  · intro h
    omega

theorem ofDigits_reverse_cons (b : Nat) (c : Char) (run : List Char) :
    Nat.ofDigits b ((c :: run).reverse.map digitVal) =
      Nat.ofDigits b (run.reverse.map digitVal) + b ^ run.length * digitVal c := by
  simp [Nat.ofDigits_append, Nat.ofDigits_singleton]

/-- The loop over a run of digits followed by a non-digit: the value it reaches, or
`none` when that value does not fit in 64 bits. -/
theorem consumeDigits_run {radix : Nat} (h2 : 2 ≤ radix) (h16 : radix ≤ 16) :
    ∀ (run rest : List Char) (acc : Nat), acc < 2 ^ 64 → (∀ c ∈ run, isDigitOf radix c) →
      (∀ c ∈ rest.head?, isDigitOf radix c = false) →
      consumeDigits radix acc (run ++ rest) =
        let n := acc * radix ^ run.length + Nat.ofDigits radix (run.reverse.map digitVal)
        if n < 2 ^ 64 then some (n, rest) else none
  | [], rest, acc, hacc, _, hrest => by
    cases rest with
    | nil => simpa [consumeDigits] using hacc
    | cons c rest =>
      have hc := hrest c rfl
      simp only [isDigitOf] at hc
      simp only [List.nil_append, consumeDigits, List.length_nil, pow_zero, mul_one,
        List.reverse_nil, List.map_nil, Nat.ofDigits_nil, add_zero, hacc, if_true]
      split <;> simp_all
  | c :: run, rest, acc, hacc, hrun, hrest => by
    have hc := hrun c (List.mem_cons_self c run)
    simp only [isDigitOf] at hc
    obtain ⟨v, hv, hvr⟩ : ∃ v, charVal c = some v ∧ v < radix := by
      cases h : charVal c <;> simp_all
    have hval : digitVal c = v := by simp [digitVal, hv]
    have hpow : 1 ≤ radix ^ run.length := Nat.one_le_pow _ _ (by omega)
    have hsum : (acc * radix + v) * radix ^ run.length +
        Nat.ofDigits radix (run.reverse.map digitVal) =
        acc * radix ^ (run.length + 1) + Nat.ofDigits radix ((c :: run).reverse.map digitVal) := by
      rw [ofDigits_reverse_cons, hval, pow_succ]; ring
    simp only [List.cons_append, consumeDigits, hv, List.length_cons, List.append_eq]
    rw [if_neg (by omega)]
    by_cases hov : 2 ^ 64 ≤ acc * radix + v
    · have := Nat.mul_le_mul_left (acc * radix + v) hpow
      rw [if_pos ((overflow_test_iff hvr (by omega)).2 hov), ← hsum, if_neg (by omega)]
    · rw [if_neg (mt (overflow_test_iff hvr (by omega)).1 hov), Nat.mod_eq_of_lt (by omega)]
      rw [consumeDigits_run h2 h16 run rest _ (by omega) (fun d hd => hrun d (List.mem_cons_of_mem c hd))
          hrest, hsum]

/-- The unsigned parse in a given radix reads the numeral at the front, consuming
it, and fails with nothing consumed when there are no digits or the value
overflows 64 bits. -/
theorem consumeUnsignedInteger_radix {R : Nat} (h2 : 2 ≤ R) (h16 : R ≤ 16) (t : List Char) :
    consumeUnsignedInteger R t =
      match numeralIn R t with
      | none => .error () t
      | some n => if n < 2 ^ 64 then .ok n (t.dropWhile (isDigitOf R)) else .error () t := by
  have hrest : ∀ c ∈ (t.dropWhile (isDigitOf R)).head?, isDigitOf R c = false := fun c hc =>
    by simpa [Option.mem_def.1 hc] using List.head?_dropWhile_not (isDigitOf R) t
  have hsplit := List.takeWhile_append_dropWhile (isDigitOf R) t
  have hloop := consumeDigits_run h2 h16 (t.takeWhile (isDigitOf R)) (t.dropWhile (isDigitOf R))
    0 (by norm_num) (fun c hc => List.mem_takeWhile_imp hc) hrest
  rw [hsplit] at hloop
  simp only [consumeUnsignedInteger, numeralIn, if_neg (show R ≠ 0 by omega), hloop]
  cases hrun : t.takeWhile (isDigitOf R) with
  | nil =>
    rw [hrun, List.nil_append] at hsplit
    simp [hsplit]
  | cons c cs =>
    rw [hrun] at hsplit
    have hne : t ≠ [] := by rw [← hsplit]; simp
    have hlen : t.length ≠ (t.dropWhile (isDigitOf R)).length := by
      have := congrArg List.length hsplit; simp only [List.length_append, List.length_cons] at this
      omega
    simp only [hne, if_false, zero_mul, zero_add]
    split_ifs <;> simp_all

/-- Radix `0` is the radix the prefix selects, applied after the prefix. -/
theorem consumeUnsignedInteger_zero (s : List Char) :
    consumeUnsignedInteger 0 s =
      consumeUnsignedInteger (getAutoSenseRadix s).1 (getAutoSenseRadix s).2 := by
  have := (getAutoSenseRadix_radix s).1
  simp only [consumeUnsignedInteger, if_true, if_neg (show (getAutoSenseRadix s).1 ≠ 0 by omega)]

/-- The unsigned parse at radix `0` reads the leading numeral, consuming it, and
fails with only the prefix consumed when there are no digits or the value
overflows 64 bits. -/
theorem consumeUnsignedInteger_eq (s : List Char) :
    consumeUnsignedInteger 0 s =
      match leadingNumeral s with
      | none => .error () (getAutoSenseRadix s).2
      | some n => if n < 2 ^ 64 then .ok n (numeralRest s) else .error () (getAutoSenseRadix s).2 := by
  have hR := getAutoSenseRadix_radix s
  rw [consumeUnsignedInteger_zero, consumeUnsignedInteger_radix hR.1 hR.2]
  rfl

/-- The parse at an unsigned type of `width ≤ 64` bits, radix `0`: it succeeds
exactly when the leading numeral fits in `width` bits, and a value that fits in 64
but not in `width` bits fails with its digits consumed. -/
theorem consumeInteger_eq {width : Nat} (hw : width ≤ 64) (s : List Char) :
    consumeInteger width 0 s =
      match leadingNumeral s with
      | none => .error () (getAutoSenseRadix s).2
      | some n =>
        if n < 2 ^ width then .ok n (numeralRest s)
        else if n < 2 ^ 64 then .error () (numeralRest s) else .error () (getAutoSenseRadix s).2 := by
  have hw' : 2 ^ width ≤ 2 ^ 64 := Nat.pow_le_pow_right (by norm_num) hw
  simp only [consumeInteger, consumeUnsignedInteger_eq]
  cases leadingNumeral s with
  | none => rfl
  | some n =>
    by_cases h : n < 2 ^ 64
    · simp only [if_pos h]
    · simp only [if_neg h, if_neg (show ¬n < 2 ^ width by omega)]

/-! ### Signed integers -/

/-- `(long long)` of an `unsigned long long` below `2 ^ 64`. -/
def toSigned64 (u : Nat) : Int := if u < 2 ^ 63 then u else (u : Int) - 2 ^ 64

/-- `consumeSignedInteger`: a leading `-` negates the unsigned value; the parse
fails when the value does not fit `long long`, `-0` included among those that
do. The negative branch consumes nothing when it fails. -/
def consumeSignedInteger (radix : Nat) : EStateM Unit (List Char) Int := fun str =>
  match str with
  | '-' :: str2 =>
    match consumeUnsignedInteger radix str2 with
    | .error () _ => .error () str
    | .ok ullVal str2 =>
      if toSigned64 ((2 ^ 64 - ullVal) % 2 ^ 64) > 0 then .error () str
      else .ok (-(ullVal : Int)) str2
  | _ =>
    match consumeUnsignedInteger radix str with
    | .error () str => .error () str
    | .ok ullVal str => if toSigned64 ullVal < 0 then .error () str else .ok ullVal str

/-- `getAsSignedInteger`: the whole string as a `long long`; `none` is the `true`
("failed") return. -/
def getAsSignedInteger (str : List Char) (radix : Nat) : Option Int :=
  match consumeSignedInteger radix str with
  | .error () _ => none
  | .ok result str => if str = [] then some result else none

/-- The value of `t` when all of it is a numeral in `radix`. -/
def wholeNumeral (radix : Nat) (t : List Char) : Option Nat :=
  if t.dropWhile (isDigitOf radix) = [] then numeralIn radix t else none

/-- The value of `s` when all of it is a numeral in `radix`, negated after a
leading `-`, and the result fits `long long`. -/
def signedNumeral (radix : Nat) : List Char → Option Int
  | '-' :: t => (wholeNumeral radix t).bind fun n => if 2 ^ 63 < n then none else some (-(n : Int))
  | t => (wholeNumeral radix t).bind fun n => if 2 ^ 63 ≤ n then none else some (n : Int)

theorem toSigned64_neg_iff {u : Nat} (h : u < 2 ^ 64) : toSigned64 u < 0 ↔ 2 ^ 63 ≤ u := by
  unfold toSigned64
  split_ifs <;> omega

/-- The overflow test of the negative branch: the negated value reads as a
positive `long long` exactly when the magnitude exceeds `2 ^ 63`. -/
theorem toSigned64_negate_pos_iff {u : Nat} (h : u < 2 ^ 64) :
    toSigned64 ((2 ^ 64 - u) % 2 ^ 64) > 0 ↔ 2 ^ 63 < u := by
  unfold toSigned64
  rcases Nat.eq_zero_or_pos u with rfl | hu
  · simp
  · rw [Nat.mod_eq_of_lt (by omega)]
    split_ifs <;> omega

/-- A signed numeral is within `long long`. -/
theorem signedNumeral_range {R : Nat} {s : List Char} {w : Int} (h : signedNumeral R s = some w) :
    -2 ^ 63 ≤ w ∧ w < 2 ^ 63 := by
  unfold signedNumeral at h
  split at h <;> obtain ⟨n, -, hn⟩ := Option.bind_eq_some.1 h <;> split_ifs at hn <;> cases hn <;>
    omega

/-- Off the negative branch, the signed parse is the unsigned parse with the sign
test. -/
theorem consumeSignedInteger_of_ne {s : List Char} (hs : ∀ t, s ≠ '-' :: t) (R : Nat) :
    consumeSignedInteger R s =
      match consumeUnsignedInteger R s with
      | .error () str => .error () str
      | .ok ullVal str => if toSigned64 ullVal < 0 then .error () str else .ok ullVal str := by
  unfold consumeSignedInteger
  split
  · exact absurd rfl (hs _)
  · rfl

theorem signedNumeral_of_ne {s : List Char} (hs : ∀ t, s ≠ '-' :: t) (R : Nat) :
    signedNumeral R s =
      (wholeNumeral R s).bind fun n => if 2 ^ 63 ≤ n then none else some (n : Int) := by
  unfold signedNumeral
  split
  · exact absurd rfl (hs _)
  · rfl

/-- `getAsSignedInteger` reads the signed numeral the whole string is. -/
theorem getAsSignedInteger_eq {R : Nat} (h2 : 2 ≤ R) (h16 : R ≤ 16) (s : List Char) :
    getAsSignedInteger s R = signedNumeral R s := by
  by_cases hs : ∃ t, s = '-' :: t
  · obtain ⟨t, rfl⟩ := hs
    simp only [getAsSignedInteger, consumeSignedInteger, signedNumeral, wholeNumeral,
      consumeUnsignedInteger_radix h2 h16]
    cases numeralIn R t with
    | none => split_ifs <;> rfl
    | some n =>
      by_cases hn : n < 2 ^ 64
      · simp only [if_pos hn, toSigned64_negate_pos_iff hn]
        split_ifs <;> simp only [Option.some_bind, Option.none_bind, ↓reduceIte, *]
      · have : 2 ^ 63 < n := by omega
        simp only [if_neg hn]
        split_ifs <;> simp only [Option.some_bind, Option.none_bind, ↓reduceIte, *]
  · push_neg at hs
    simp only [getAsSignedInteger, consumeSignedInteger_of_ne hs, signedNumeral_of_ne hs,
      wholeNumeral, consumeUnsignedInteger_radix h2 h16]
    cases numeralIn R s with
    | none => split_ifs <;> rfl
    | some n =>
      by_cases hn : n < 2 ^ 64
      · simp only [if_pos hn, toSigned64_neg_iff hn]
        split_ifs <;> simp only [Option.some_bind, Option.none_bind, ↓reduceIte, *]
      · have : 2 ^ 63 ≤ n := by omega
        simp only [if_neg hn]
        split_ifs <;> simp only [Option.some_bind, Option.none_bind, ↓reduceIte, *]

/-! ### Printed numbers read back -/

theorem charVal_digitChar : ∀ d < 10, charVal (Nat.digitChar d) = some d := by decide

/-- The digits Lean prints a positive number with are Mathlib's, most significant
first. -/
theorem toDigitsCore_ten {fuel n : Nat} (hn : 0 < n) (hfuel : n < fuel) (ds : List Char) :
    Nat.toDigitsCore 10 fuel n ds = ((Nat.digits 10 n).map Nat.digitChar).reverse ++ ds := by
  induction fuel generalizing n ds with
  | zero => omega
  | succ fuel ih =>
    rw [Nat.toDigitsCore, Nat.digits_def' (by norm_num) hn]
    split_ifs with h
    · rw [h, Nat.digits_zero]; rfl
    · rw [ih (Nat.pos_of_ne_zero h) (by omega)]
      simp

theorem toDigits_ten {n : Nat} (hn : 0 < n) :
    Nat.toDigits 10 n = ((Nat.digits 10 n).map Nat.digitChar).reverse := by
  rw [Nat.toDigits, toDigitsCore_ten hn (Nat.lt_succ_self n), List.append_nil]

theorem isDigitOf_toDigits (n : Nat) : ∀ c ∈ Nat.toDigits 10 n, isDigitOf 10 c = true := by
  rcases Nat.eq_zero_or_pos n with rfl | hn
  · decide
  · intro c hc
    rw [toDigits_ten hn, List.mem_reverse, List.mem_map] at hc
    obtain ⟨d, hd, rfl⟩ := hc
    have := Nat.digits_lt_base (by norm_num) hd
    simp [isDigitOf, charVal_digitChar d this, this]

/-- A printed natural number is a whole decimal numeral of its value. -/
theorem wholeNumeral_toDigits (n : Nat) : wholeNumeral 10 (Nat.toDigits 10 n) = some n := by
  rcases Nat.eq_zero_or_pos n with rfl | hn
  · decide
  · have hdig := isDigitOf_toDigits n
    have hval : (Nat.toDigits 10 n).reverse.map digitVal = Nat.digits 10 n := by
      rw [toDigits_ten hn, List.reverse_reverse, List.map_map]
      refine (List.map_congr_left fun d hd => ?_).trans (List.map_id _)
      have := Nat.digits_lt_base (by norm_num) hd
      simp [digitVal, charVal_digitChar d this]
    have hne : Nat.toDigits 10 n ≠ [] := by
      simp [toDigits_ten hn, Nat.digits_ne_nil_iff_ne_zero, hn.ne']
    unfold wholeNumeral numeralIn
    rw [List.dropWhile_eq_nil_iff.2 hdig, List.takeWhile_eq_self_iff.2 hdig, if_pos rfl]
    obtain ⟨c, cs, hcs⟩ := List.exists_cons_of_ne_nil hne
    rw [hcs] at hval ⊢
    simp only [hval, Nat.ofDigits_digits]

theorem toDigits_ne_minus (n : Nat) (t : List Char) : Nat.toDigits 10 n ≠ '-' :: t := fun h =>
  absurd (isDigitOf_toDigits n '-' (h ▸ List.mem_cons_self _ _)) (by decide)

theorem toString_int_data (i : Int) :
    (toString i).data = match i with
      | .ofNat m => Nat.toDigits 10 m
      | .negSucc m => '-' :: Nat.toDigits 10 (m + 1) := by
  cases i <;> rfl

/-- Every `long long`, printed in decimal, is the signed numeral of its value. -/
theorem signedNumeral_toString {i : Int} (hi : -2 ^ 63 ≤ i ∧ i < 2 ^ 63) :
    signedNumeral 10 (toString i).data = some i := by
  rw [toString_int_data]
  cases i with
  | ofNat m =>
    rw [Int.ofNat_eq_coe] at hi
    rw [signedNumeral_of_ne (toDigits_ne_minus m), wholeNumeral_toDigits, Option.some_bind,
      if_neg (by omega)]
    rfl
  | negSucc m =>
    rw [Int.negSucc_eq] at hi
    simp only [signedNumeral, wholeNumeral_toDigits, Option.some_bind]
    rw [if_neg (by omega)]
    rfl

theorem getAutoSenseRadix_digitChar {d : Nat} (h0 : 0 < d) (h10 : d < 10) (rest : List Char) :
    getAutoSenseRadix (Nat.digitChar d :: rest) = (10, Nat.digitChar d :: rest) := by
  interval_cases d <;> rfl

/-- A printed number has no radix prefix: the leading digit of a positive number is
not `0`. -/
theorem getAutoSenseRadix_toDigits (n : Nat) :
    getAutoSenseRadix (Nat.toDigits 10 n) = (10, Nat.toDigits 10 n) := by
  rcases Nat.eq_zero_or_pos n with rfl | hn
  · rfl
  · have hne : Nat.digits 10 n ≠ [] := Nat.digits_ne_nil_iff_ne_zero.2 hn.ne'
    have hlast := Nat.getLast_digit_ne_zero 10 hn.ne'
    have hlt := Nat.digits_lt_base (by norm_num) (List.getLast_mem hne)
    rw [toDigits_ten hn, ← List.dropLast_append_getLast hne, List.map_append, List.reverse_append]
    exact getAutoSenseRadix_digitChar (Nat.pos_of_ne_zero hlast) hlt _

/-- Every `long long`, printed in decimal, is read back by `getAsSignedInteger`,
in radix `10` and with the radix left to the prefix. -/
theorem getAsSignedInteger_toString {R : Nat} (hR : R = 0 ∨ R = 10) {i : Int}
    (hi : -2 ^ 63 ≤ i ∧ i < 2 ^ 63) : getAsSignedInteger (toString i).data R = some i := by
  have h10 : getAsSignedInteger (toString i).data 10 = some i := by
    rw [getAsSignedInteger_eq (by norm_num) (by norm_num), signedNumeral_toString hi]
  rcases hR with rfl | rfl
  · have hzero (n : Nat) : consumeUnsignedInteger 0 (Nat.toDigits 10 n) =
        consumeUnsignedInteger 10 (Nat.toDigits 10 n) := by
      rw [consumeUnsignedInteger_zero, getAutoSenseRadix_toDigits]
    rw [← h10, toString_int_data]
    cases i with
    | ofNat m =>
      simp only [getAsSignedInteger, consumeSignedInteger_of_ne (toDigits_ne_minus m), hzero]
    | negSucc m => simp only [getAsSignedInteger, consumeSignedInteger, hzero]
  · exact h10

end QECompiler.StringRef
