/-!
# UTF-8

Text as bytes. `scan` takes bytes apart into characters and malformed pieces; a malformed piece is
as long as it could still have become a character, so what comes after it is read afresh.
`scan_utf8` says that the bytes of a text are read back as that text.
-/

namespace LtiLaunch.Text

/-- The bytes of a character: one for ASCII, and else a lead byte that tells how many follow, with
six bits of the code point in each that follows. -/
def utf8Char (c : Char) : List UInt8 :=
  let n := c.toNat
  if n < 0x80 then [UInt8.ofNat n]
  else if n < 0x800 then [UInt8.ofNat (0xC0 + n / 0x40), UInt8.ofNat (0x80 + n % 0x40)]
  else if n < 0x10000 then
    [UInt8.ofNat (0xE0 + n / 0x1000), UInt8.ofNat (0x80 + n / 0x40 % 0x40),
      UInt8.ofNat (0x80 + n % 0x40)]
  else
    [UInt8.ofNat (0xF0 + n / 0x40000), UInt8.ofNat (0x80 + n / 0x1000 % 0x40),
      UInt8.ofNat (0x80 + n / 0x40 % 0x40), UInt8.ofNat (0x80 + n % 0x40)]

def utf8 (cs : List Char) : List UInt8 := cs.flatMap utf8Char

def replacement : Char := '\ufffd'

namespace Utf8

/-- A character that has begun: its bits so far, how many bytes it lacks, and the values that the
next byte may have. -/
structure Pending where
  bits : Nat
  missing : Nat
  low : Nat
  high : Nat

def secondLow (lead : Nat) : Nat := if lead = 0xE0 then 0xA0 else if lead = 0xF0 then 0x90 else 0x80

def secondHigh (lead : Nat) : Nat :=
  if lead = 0xED then 0x9F else if lead = 0xF4 then 0x8F else 0xBF

/-- Reads a byte where no character has begun: what is complete after it, and what has begun. -/
def first (n : Nat) : List (Option Char) × Option Pending :=
  if n < 0x80 then ([some (Char.ofNat n)], none)
  else if n < 0xC2 ∨ 0xF4 < n then ([none], none)
  else if n < 0xE0 then ([], some ⟨n - 0xC0, 1, 0x80, 0xBF⟩)
  else if n < 0xF0 then ([], some ⟨n - 0xE0, 2, secondLow n, secondHigh n⟩)
  else ([], some ⟨n - 0xF0, 3, secondLow n, secondHigh n⟩)

def next (p : Pending) (n : Nat) : List (Option Char) × Option Pending :=
  if p.low ≤ n ∧ n ≤ p.high then
    let bits := p.bits * 0x40 + n % 0x40
    if p.missing = 1 then ([some (Char.ofNat bits)], none)
    else ([], some ⟨bits, p.missing - 1, 0x80, 0xBF⟩)
  else (none :: (first n).1, (first n).2)

def step : Option Pending → Nat → List (Option Char) × Option Pending
  | none => first
  | some p => next p

def scanFrom : Option Pending → List UInt8 → List (Option Char)
  | none, [] => []
  | some _, [] => [none]
  | p, b :: rest => (step p b.toNat).1 ++ scanFrom (step p b.toNat).2 rest

/-- The characters of the bytes, with `none` for each malformed piece. -/
def scan (bytes : List UInt8) : List (Option Char) := scanFrom none bytes

/-! ### What is written is read back -/

theorem next_of_mem {p : Pending} {n : Nat} (h : p.low ≤ n ∧ n ≤ p.high) :
    next p n =
      if p.missing = 1 then ([some (Char.ofNat (p.bits * 0x40 + n % 0x40))], none)
      else ([], some ⟨p.bits * 0x40 + n % 0x40, p.missing - 1, 0x80, 0xBF⟩) := if_pos h

theorem toNat_byte {n : Nat} (h : n < 256) : (UInt8.ofNat n).toNat = n := by
  simpa [UInt8.toNat_ofNat'] using h

theorem scanFrom_ascii {n : Nat} (h : n < 0x80) (rest : List UInt8) :
    scanFrom none (UInt8.ofNat n :: rest) = some (Char.ofNat n) :: scanFrom none rest := by
  simp [scanFrom, step, first, toNat_byte (show n < 256 by omega), h]

theorem scanFrom_last {bits low high n : Nat} (h : low ≤ n ∧ n ≤ high) (hn : n < 256)
    (rest : List UInt8) :
    scanFrom (some ⟨bits, 1, low, high⟩) (UInt8.ofNat n :: rest) =
      some (Char.ofNat (bits * 0x40 + n % 0x40)) :: scanFrom none rest := by
  simp [scanFrom, step, toNat_byte hn, next_of_mem (p := ⟨bits, 1, low, high⟩) h]

theorem scanFrom_more {bits missing low high n : Nat} (h : low ≤ n ∧ n ≤ high) (hn : n < 256)
    (rest : List UInt8) :
    scanFrom (some ⟨bits, missing + 2, low, high⟩) (UInt8.ofNat n :: rest) =
      scanFrom (some ⟨bits * 0x40 + n % 0x40, missing + 1, 0x80, 0xBF⟩) rest := by
  simp [scanFrom, step, toNat_byte hn, next_of_mem (p := ⟨bits, missing + 2, low, high⟩) h]

theorem scanFrom_lead₂ {n : Nat} (h : 0xC2 ≤ n ∧ n < 0xE0) (rest : List UInt8) :
    scanFrom none (UInt8.ofNat n :: rest) = scanFrom (some ⟨n - 0xC0, 1, 0x80, 0xBF⟩) rest := by
  rw [scanFrom, toNat_byte (by omega), step, first, if_neg (by omega), if_neg (by omega),
    if_pos (by omega)]
  rfl

theorem scanFrom_lead₃ {n : Nat} (h : 0xE0 ≤ n ∧ n < 0xF0) (rest : List UInt8) :
    scanFrom none (UInt8.ofNat n :: rest) =
      scanFrom (some ⟨n - 0xE0, 2, secondLow n, secondHigh n⟩) rest := by
  rw [scanFrom, toNat_byte (by omega), step, first, if_neg (by omega), if_neg (by omega),
    if_neg (by omega), if_pos (by omega)]
  rfl

theorem scanFrom_lead₄ {n : Nat} (h : 0xF0 ≤ n ∧ n < 0xF5) (rest : List UInt8) :
    scanFrom none (UInt8.ofNat n :: rest) =
      scanFrom (some ⟨n - 0xF0, 3, secondLow n, secondHigh n⟩) rest := by
  rw [scanFrom, toNat_byte (by omega), step, first, if_neg (by omega), if_neg (by omega),
    if_neg (by omega), if_neg (by omega)]
  rfl

/-- The bytes of a character are read back as that character. -/
theorem scanFrom_utf8Char (c : Char) (rest : List UInt8) :
    scanFrom none (utf8Char c ++ rest) = some c :: scanFrom none rest := by
  have hc := Char.ofNat_toNat c
  have valid : c.toNat < 0xD800 ∨ (0xDFFF < c.toNat ∧ c.toNat < 0x110000) := c.valid
  rw [utf8Char]
  generalize c.toNat = n at hc valid
  have back : ∀ m, m = n → Char.ofNat m = c := fun m hm => by rw [hm, hc]
  split
  · next h =>
    rw [List.cons_append, List.nil_append, scanFrom_ascii h, hc]
  split
  · next h =>
    rw [List.cons_append, List.cons_append, List.nil_append, scanFrom_lead₂ (by omega),
      scanFrom_last (by omega) (by omega), back _ (by omega)]
  split
  · next h =>
    have second : secondLow (0xE0 + n / 0x1000) ≤ 0x80 + n / 0x40 % 0x40 ∧
        0x80 + n / 0x40 % 0x40 ≤ secondHigh (0xE0 + n / 0x1000) := by
      simp only [secondLow, secondHigh]
      constructor <;> (repeat' split) <;> omega
    rw [List.cons_append, List.cons_append, List.cons_append, List.nil_append,
      scanFrom_lead₃ (by omega), scanFrom_more second (by omega),
      scanFrom_last (by omega) (by omega), back _ (by omega)]
  · next h =>
    have second : secondLow (0xF0 + n / 0x40000) ≤ 0x80 + n / 0x1000 % 0x40 ∧
        0x80 + n / 0x1000 % 0x40 ≤ secondHigh (0xF0 + n / 0x40000) := by
      simp only [secondLow, secondHigh]
      constructor <;> (repeat' split) <;> omega
    rw [List.cons_append, List.cons_append, List.cons_append, List.cons_append, List.nil_append,
      scanFrom_lead₄ (by omega), scanFrom_more second (by omega),
      scanFrom_more (by omega) (by omega), scanFrom_last (by omega) (by omega),
      back _ (by omega)]

end Utf8

/-- The characters of the bytes, each malformed piece replaced. -/
def ofUtf8Lossy (bytes : List UInt8) : List Char :=
  (Utf8.scan bytes).map (·.getD replacement)

def ofUtf8? (bytes : List UInt8) : Option (List Char) := (Utf8.scan bytes).mapM id

theorem scan_utf8 (cs : List Char) : Utf8.scan (utf8 cs) = cs.map some := by
  induction cs with
  | nil => rfl
  | cons c cs ih =>
    rw [utf8, List.flatMap_cons, Utf8.scan, Utf8.scanFrom_utf8Char, List.map_cons]
    exact congrArg (some c :: ·) ih

@[simp] theorem ofUtf8Lossy_utf8 (cs : List Char) : ofUtf8Lossy (utf8 cs) = cs := by
  rw [ofUtf8Lossy, scan_utf8, List.map_map]
  exact List.map_id' cs

@[simp] theorem ofUtf8?_utf8 (cs : List Char) : ofUtf8? (utf8 cs) = some cs := by
  rw [ofUtf8?, scan_utf8]
  induction cs with
  | nil => rfl
  | cons c cs ih => simp [ih]

end LtiLaunch.Text
