import MarkupEditor.Character.Lowercase

/-!
# Lower case and ASCII

Beyond ASCII lower case is a long table, but little of it leads back into ASCII: the Kelvin sign
becomes `k`, and the dotted capital I becomes an `i` with a dot above behind it. Every other character
beyond ASCII stays there, and within ASCII only the capital letters change. So what lower case leaves
holds no capital letter of ASCII, and the case of these letters does not show in it.
-/

namespace MarkupEditor.Character

def kelvinSign : Char :=
  '\u212A'

def dottedI : Char :=
  '\u0130'

/-- What lower case makes of a character, told apart by what is in ASCII. -/
inductive Lowers : Char → List Char → Prop
  | ascii {c : Char} (hc : c.toNat < 0x80) : Lowers c [c.toLower]
  | kelvinSign : Lowers kelvinSign ['k']
  | dottedI : Lowers dottedI ['i', '\u0307']
  | foreign {c d : Char} (hc : 0x80 ≤ c.toNat) (hkelvin : c ≠ kelvinSign) (hd : 0x80 ≤ d.toNat) :
      Lowers c [d]

/-- The characters are read as the same letter of ASCII. -/
def SameLetter (c letter : Char) : Prop :=
  c.toLower = letter.toLower ∨ c = kelvinSign ∧ letter.toLower = 'k'

/-- The row is one of characters beyond ASCII and leads to such characters. -/
def CaseShift.IsForeign (row : CaseShift) : Prop :=
  0x80 ≤ row.first ∧ 0x80 ≤ row.first + row.shift ∧
    (row.last + row.shift < 0xD800 ∨
      0xDFFF < row.first + row.shift ∧ row.last + row.shift < 0x110000)

instance (row : CaseShift) : Decidable row.IsForeign :=
  inferInstanceAs (Decidable (_ ∧ _))

section Letters

variable {c d : Char}

theorem toNat_toLower (c : Char) :
    c.toLower.toNat = if 0x41 ≤ c.toNat ∧ c.toNat ≤ 0x5A then c.toNat + 0x20 else c.toNat := by
  have hrange : c.val ≥ 'A'.val ∧ c.val ≤ 'Z'.val ↔ 0x41 ≤ c.toNat ∧ c.toNat ≤ 0x5A := by
    simp [UInt32.le_iff_toNat_le]
  unfold Char.toLower
  by_cases hupper : 0x41 ≤ c.toNat ∧ c.toNat ≤ 0x5A
  · rw [dif_pos (hrange.mpr hupper), if_pos hupper]
    have hbounds : 0x41 ≤ c.val.toNat ∧ c.val.toNat ≤ 0x5A := hupper
    have hshift : 'a'.val - 'A'.val = 0x20 := by decide
    have hwidth : (0x20 : UInt32).toNat = 0x20 := rfl
    change (c.val + ('a'.val - 'A'.val)).toNat = c.val.toNat + 0x20
    rw [hshift, UInt32.toNat_add, hwidth]
    exact Nat.mod_eq_of_lt (by omega)
  · rw [dif_neg (mt hrange.mp hupper), if_neg hupper]

theorem toNat_toLower_lt (hc : c.toNat < 0x80) : c.toLower.toNat < 0x80 := by
  rw [toNat_toLower]
  split <;> omega

theorem toLower_of_not_capital (hc : ¬(0x41 ≤ c.toNat ∧ c.toNat ≤ 0x5A)) : c.toLower = c := by
  apply Char.toNat_inj.mp
  rw [toNat_toLower, if_neg hc]

end Letters

section Table

variable {c : Char} {n : Nat} {row : CaseShift}

theorem covers_iff :
    row.covers n = true ↔ row.first ≤ n ∧ n ≤ row.last ∧ (n - row.first) % row.step = 0 := by
  simp only [CaseShift.covers, Bool.and_eq_true, decide_eq_true_eq, beq_iff_eq, and_assoc]

/-- The first row is that of the capital letters of ASCII. -/
theorem lowercaseShifts_eq : lowercaseShifts = ⟨0x41, 0x5A, 1, 0x20⟩ :: lowercaseShifts.tail :=
  rfl

set_option maxRecDepth 8000 in
/-- Of the other rows, only that of the Kelvin sign leads into ASCII. -/
theorem isForeign_of_mem_tail :
    ∀ row ∈ lowercaseShifts.tail,
      row.IsForeign ∨ row.first = kelvinSign.toNat ∧ row.last = kelvinSign.toNat := by
  decide

theorem first_of_mem_tail (hrow : row ∈ lowercaseShifts.tail) : 0x80 ≤ row.first := by
  have hkelvin : 0x80 ≤ kelvinSign.toNat := by decide
  rcases isForeign_of_mem_tail row hrow with hforeign | hrow
  · exact hforeign.1
  · omega

theorem mem_tail_of_covers (hn : 0x80 ≤ n) (hrow : row ∈ lowercaseShifts)
    (hcovers : row.covers n = true) : row ∈ lowercaseShifts.tail := by
  rw [lowercaseShifts_eq, List.mem_cons] at hrow
  rcases hrow with rfl | hrow
  · have hlast := (covers_iff.mp hcovers).2.1
    dsimp only at hlast
    omega
  · exact hrow

theorem find?_tail_of_ascii (hn : n < 0x80) :
    lowercaseShifts.tail.find? (·.covers n) = none := by
  rw [List.find?_eq_none]
  intro row hrow hcovers
  have hfirst := first_of_mem_tail hrow
  have hle := (covers_iff.mp hcovers).1
  omega

theorem lowercase_of_ascii (hc : c.toNat < 0x80) : lowercase c = [c.toLower] := by
  have hdotted : c.toNat ≠ 0x130 := by omega
  rw [lowercase, if_neg hdotted, lowercaseShifts_eq, List.find?_cons, find?_tail_of_ascii hc]
  by_cases hcapital : 0x41 ≤ c.toNat ∧ c.toNat ≤ 0x5A
  · have hcovers : CaseShift.covers ⟨0x41, 0x5A, 1, 0x20⟩ c.toNat = true :=
      covers_iff.mpr ⟨hcapital.1, hcapital.2, Nat.mod_one _⟩
    have hlower : ((c.toNat : Int) + 0x20).toNat = c.toLower.toNat := by
      rw [toNat_toLower, if_pos hcapital]
      omega
    rw [hcovers]
    dsimp only
    rw [hlower, Char.ofNat_toNat]
  · have hcovers : CaseShift.covers ⟨0x41, 0x5A, 1, 0x20⟩ c.toNat = false := by
      rw [← Bool.not_eq_true, covers_iff]
      exact fun hrow => hcapital ⟨hrow.1, hrow.2.1⟩
    rw [hcovers, toLower_of_not_capital hcapital]

/-- A foreign row leads every character that it covers to one beyond ASCII. -/
theorem toNat_shifted (hforeign : row.IsForeign) (hcovers : row.covers n = true) :
    0x80 ≤ (Char.ofNat ((n : Int) + row.shift).toNat).toNat := by
  obtain ⟨hfirst, hshifted, hvalid⟩ := hforeign
  obtain ⟨hle, hlast, -⟩ := covers_iff.mp hcovers
  have hchar : ((n : Int) + row.shift).toNat.isValidChar := by
    unfold Nat.isValidChar
    omega
  rw [Char.ofNat, dif_pos hchar]
  change 0x80 ≤ ((n : Int) + row.shift).toNat
  omega

theorem lowers_lowercase (c : Char) : Lowers c (lowercase c) := by
  by_cases hascii : c.toNat < 0x80
  · rw [lowercase_of_ascii hascii]
    exact .ascii hascii
  by_cases hkelvin : c = kelvinSign
  · have hlower : lowercase kelvinSign = ['k'] := by decide
    rw [hkelvin, hlower]
    exact .kelvinSign
  have hforeign : 0x80 ≤ c.toNat := Nat.le_of_not_lt hascii
  unfold lowercase
  split
  · rename_i hdotted
    obtain rfl : c = dottedI := Char.toNat_inj.mp hdotted
    exact .dottedI
  · split
    · rename_i row hfind
      have hcovers := List.find?_some hfind
      have hrow := mem_tail_of_covers hforeign (List.mem_of_find?_eq_some hfind) hcovers
      rcases isForeign_of_mem_tail row hrow with hleads | ⟨hfirst, hlast⟩
      · exact .foreign hforeign hkelvin (toNat_shifted hleads hcovers)
      · obtain ⟨hle, hge, -⟩ := covers_iff.mp hcovers
        exact absurd (Char.toNat_inj.mp (by omega)) hkelvin
    · exact .foreign hforeign hkelvin hforeign

end Table

section Case

variable {c d : Char}

/-- Lower case leaves no capital letter of ASCII. -/
theorem toLower_of_mem_lowercase (hd : d ∈ lowercase c) : d.toLower = d := by
  have hlowers := lowers_lowercase c
  generalize lowercase c = lowered at hd hlowers
  apply toLower_of_not_capital
  cases hlowers with
  | ascii hc =>
      rw [List.mem_singleton.mp hd, toNat_toLower]
      split <;> omega
  | kelvinSign =>
      obtain rfl := List.mem_singleton.mp hd
      decide
  | dottedI =>
      have hchars : d = 'i' ∨ d = '\u0307' := by simpa using hd
      rcases hchars with rfl | rfl <;> decide
  | foreign hc hkelvin hforeign =>
      obtain rfl := List.mem_singleton.mp hd
      omega

/-- The case of a letter of ASCII does not show in lower case. -/
theorem lowercase_toLower (c : Char) : lowercase c.toLower = lowercase c := by
  by_cases hc : 0x41 ≤ c.toNat ∧ c.toNat ≤ 0x5A
  · have hlower : c.toLower ∈ lowercase c := by
      rw [lowercase_of_ascii (by omega)]
      exact List.mem_singleton_self _
    rw [lowercase_of_ascii (toNat_toLower_lt (by omega)), toLower_of_mem_lowercase hlower,
      lowercase_of_ascii (by omega)]
  · rw [toLower_of_not_capital hc]

theorem lowercase_congr (hcase : c.toLower = d.toLower) : lowercase c = lowercase d := by
  rw [← lowercase_toLower c, hcase, lowercase_toLower]

theorem lowercase_ne_nil (c : Char) : lowercase c ≠ [] := by
  have hlowers := lowers_lowercase c
  generalize lowercase c = lowered at hlowers
  cases hlowers <;> exact List.cons_ne_nil _ _

/-- The two characters of the dotted capital I are not both in ASCII. -/
theorem lowercase_eq_of_append {rest tail : List Char} (htail : ∀ x ∈ tail, x.toNat < 0x80)
    (happend : lowercase c ++ rest = d :: tail) : lowercase c = [d] := by
  have hlowers := lowers_lowercase c
  generalize lowercase c = lowered at happend hlowers
  cases hlowers with
  | ascii | kelvinSign | foreign => exact congrArg ([·]) (List.cons.inj happend).1
  | dottedI =>
      obtain ⟨-, rfl⟩ := List.cons.inj happend
      exact absurd (htail '\u0307' (List.mem_cons_self ..)) (by decide)

theorem lowercase_eq_iff (hd : d.toNat < 0x80) : lowercase c = [d.toLower] ↔ SameLetter c d := by
  have hlower := toNat_toLower_lt hd
  have hforeign (hc : 0x80 ≤ c.toNat) : c.toLower ≠ d.toLower := by
    rw [toLower_of_not_capital (by omega)]
    rintro rfl
    omega
  have hlowers := lowers_lowercase c
  unfold SameLetter
  generalize lowercase c = lowered at hlowers
  cases hlowers with
  | ascii hc =>
      have hkelvin : c ≠ kelvinSign := by
        rintro rfl
        exact absurd hc (by decide)
      simp only [List.cons.injEq, and_true, hkelvin, false_and, or_false]
  | kelvinSign =>
      simp only [List.cons.injEq, and_true, hforeign (by decide), true_and, false_or]
      exact eq_comm
  | dottedI =>
      have hkelvin : dottedI ≠ kelvinSign := by decide
      simp [hforeign (by decide), hkelvin]
  | @foreign c e hc hkelvin he =>
      have hne : e ≠ d.toLower := by
        rintro rfl
        omega
      simp only [List.cons.injEq, and_true, hne, hforeign hc, hkelvin, false_and, or_self]

end Case

end MarkupEditor.Character
