import ConnectorLifecycle.Settings.Reading

/-!
# Values of a type

Each reader accepts the values of one type and reads them exactly: texts, truth values, and integers
within the range of a word. A number that no word stands for is refused, never cut to size. How the
words of a width stand for numbers is said once, in `Width`, for all three widths.
-/

namespace ConnectorLifecycle.Value

/-- A value is an integer between two bounds. -/
def IntegerWithin (low high : Int) (v : Value) : Prop :=
  ∃ n, v.integer? = some n ∧ low ≤ n ∧ n ≤ high

/-- Texts are read as they are. -/
theorem text?_iff (v : Value) (s : String) : v.text? = some s ↔ v = .text s := by
  cases v <;> simp [text?]

/-- Truth values are read as they are. -/
theorem flag?_iff (v : Value) (b : Bool) : v.flag? = some b ↔ v = .flag b := by
  cases v <;> simp [flag?]

/-- A number without sign is an integer that has none. -/
theorem natural?_iff (v : Value) (n : Nat) : v.natural? = some n ↔ v.integer? = some (n : Int) := by
  cases v with
  | natural m =>
    simp only [natural?, integer?, Option.some.injEq]
    omega
  | negative m =>
    cases m with
    | zero => simp [natural?, integer?, eq_comm]
    | succ m =>
      simp only [natural?, integer?, reduceCtorEq, Option.some.injEq, false_iff]
      omega
  | _ => simp [natural?, integer?]

/-- How the words of a width stand for the numbers below a bound. -/
structure Width (W : Type) where
  /-- The number of words. -/
  size : Nat
  /-- The word of a number. -/
  ofNat : Nat → W
  /-- The number of a word. -/
  toNat : W → Nat
  /-- Every word has a number below the bound. -/
  toNat_lt : ∀ w, toNat w < size
  /-- A number below the bound is that of its word. -/
  toNat_ofNat : ∀ n, n < size → toNat (ofNat n) = n
  /-- A word is that of its number. -/
  ofNat_toNat : ∀ w, ofNat (toNat w) = w

/-- Words of sixteen bits. -/
def width16 : Width UInt16 :=
  ⟨UInt16.size, UInt16.ofNat, UInt16.toNat, UInt16.toNat_lt, fun _ => UInt16.toNat_ofNat_of_lt,
    fun _ => UInt16.ofNat_toNat⟩

/-- Words of thirty-two bits. -/
def width32 : Width UInt32 :=
  ⟨UInt32.size, UInt32.ofNat, UInt32.toNat, UInt32.toNat_lt, fun _ => UInt32.toNat_ofNat_of_lt,
    fun _ => UInt32.ofNat_toNat⟩

/-- Words of sixty-four bits. -/
def width64 : Width UInt64 :=
  ⟨UInt64.size, UInt64.ofNat, UInt64.toNat, UInt64.toNat_lt, fun _ => UInt64.toNat_ofNat_of_lt,
    fun _ => UInt64.ofNat_toNat⟩

namespace Width

variable {W : Type} (width : Width W)

/-- A word is read from the integer that is its number. -/
theorem read_iff (v : Value) (w : W) :
    (v.natural?.bind fun n => if n < width.size then some (width.ofNat n) else none) = some w ↔
      v.integer? = some (width.toNat w : Int) := by
  rw [← natural?_iff, Option.bind_eq_some_iff]
  constructor
  · rintro ⟨n, hn, h⟩
    split at h
    · next hlt =>
      cases h
      rw [hn, width.toNat_ofNat n hlt]
    · cases h
  · intro h
    exact ⟨_, h, by rw [if_pos (width.toNat_lt w), width.ofNat_toNat]⟩

/-- The integers that are numbers of words are those from nought up to the bound. -/
theorem exists_iff (v : Value) :
    (∃ w, v.integer? = some (width.toNat w : Int)) ↔ v.IntegerWithin 0 (width.size - 1) := by
  constructor
  · rintro ⟨w, h⟩
    have hlt := width.toNat_lt w
    exact ⟨_, h, by omega, by omega⟩
  · rintro ⟨n, h, hlow, hhigh⟩
    obtain ⟨m, rfl⟩ := Int.eq_ofNat_of_zero_le hlow
    refine ⟨width.ofNat m, ?_⟩
    rw [h, width.toNat_ofNat m (by omega)]

end Width

/-- A signed integer of sixty-four bits is read from the integer that it is. -/
theorem int64?_iff (v : Value) (n : Int64) :
    fieldReader.int64? v = some n ↔ v.integer? = some n.toInt := by
  rw [FieldReader.int64?, Option.bind_eq_some_iff]
  constructor
  · rintro ⟨m, hm, h⟩
    split at h
    · next bounds =>
      have hmax : Int64.maxValue.toInt < 9223372036854775808 := by decide
      cases h
      rw [Int64.toInt_ofInt_of_le bounds.1 (Int.lt_of_le_of_lt bounds.2 hmax)]
      exact hm
    · cases h
  · intro h
    exact ⟨_, h, by rw [if_pos ⟨n.minValue_le_toInt, n.toInt_le⟩, Int64.ofInt_toInt]⟩

/-- The integers of sixty-four bits are those between the least and the greatest one. -/
theorem exists_int64_iff (v : Value) :
    (∃ n : Int64, v.integer? = some n.toInt) ↔
      v.IntegerWithin (-9223372036854775808) 9223372036854775807 := by
  constructor
  · rintro ⟨n, h⟩
    exact ⟨_, h, n.le_toInt, by have := n.toInt_lt; omega⟩
  · rintro ⟨m, h, hlow, hhigh⟩
    refine ⟨Int64.ofInt m, ?_⟩
    rw [h, Int64.toInt_ofInt_of_le hlow (by omega)]

theorem word16?_iff (v : Value) (n : UInt16) :
    fieldReader.word16? v = some n ↔ v.integer? = some (n.toNat : Int) := width16.read_iff v n

theorem word32?_iff (v : Value) (n : UInt32) :
    fieldReader.word32? v = some n ↔ v.integer? = some (n.toNat : Int) := width32.read_iff v n

theorem word64?_iff (v : Value) (n : UInt64) :
    fieldReader.word64? v = some n ↔ v.integer? = some (n.toNat : Int) := width64.read_iff v n

end ConnectorLifecycle.Value
