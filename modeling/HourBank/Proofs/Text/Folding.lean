import HourBank.Text

/-! Folding a plain text, of ASCII characters and accents only. Accents are dropped wherever they
stand and however they are ordered, but for the one that has a letter for its capital. -/

namespace HourBank.Text

/-- Made of ASCII characters and accents. -/
def IsPlain (t : Text) : Prop := ∀ c ∈ t, c.toNat < 0x80 ∨ isAccent c = true

def unaccented (t : Text) : Text := t.filter (!isAccent ·)

/-- The iota below a letter, the one accent that has a letter for its capital. -/
def iotaBelow : Char := '\u0345'

/-- The same but for the case of ASCII letters. -/
def SameLetters (a b : Text) : Prop := a.map Char.toUpper = b.map Char.toUpper

instance (t : Text) : Decidable t.IsPlain :=
  List.decidableBAll (fun c : Char => c.toNat < 0x80 ∨ isAccent c = true) t

instance (a b : Text) : Decidable (a.SameLetters b) :=
  inferInstanceAs (Decidable (a.map Char.toUpper = b.map Char.toUpper))

/-- A character in upper case and decomposed. -/
def unfolded (c : Char) : Text := (Unicode.uppercase c).flatMap Unicode.decompose

theorem forall_of_codes {P : Char → Prop} (first count : Nat)
    (h : ∀ i < count, P (Char.ofNat (first + i))) {c : Char} (hfirst : first ≤ c.toNat)
    (hlast : c.toNat < first + count) : P c := by
  have hcode : first + (c.toNat - first) = c.toNat := by omega
  have hc := h (c.toNat - first) (by omega)
  rwa [hcode, Char.ofNat_toNat] at hc

theorem unfolded_of_ascii {c : Char} (h : c.toNat < 0x80) : unfolded c = [c.toUpper] :=
  forall_of_codes (P := fun c => unfolded c = [c.toUpper]) 0 0x80 (by decide +kernel)
    (Nat.zero_le _) (by omega)

theorem toNat_toUpper_lt {c : Char} (h : c.toNat < 0x80) : c.toUpper.toNat < 0x80 :=
  forall_of_codes (P := fun c => c.toUpper.toNat < 0x80) 0 0x80 (by decide +kernel)
    (Nat.zero_le _) (by omega)

theorem not_accent_of_ascii {c : Char} (h : c.toNat < 0x80) : isAccent c = false := by
  simp only [isAccent, Bool.and_eq_false_iff, decide_eq_false_iff_not]
  omega

theorem unfolded_iotaBelow : unfolded iotaBelow = ['\u0399'] := by decide +kernel

theorem isAccent_of_mem_unfolded {c d : Char} (hc : isAccent c = true) (hne : c ≠ iotaBelow)
    (hd : d ∈ unfolded c) : isAccent d = true := by
  simp only [isAccent, Bool.and_eq_true, decide_eq_true_eq] at hc
  have hall := forall_of_codes (P := fun c => c ≠ iotaBelow → (unfolded c).all isAccent = true)
    0x300 0x70 (by decide +kernel) hc.1 (by omega) hne
  exact List.all_eq_true.mp hall d hd

theorem combiningClass_of_ascii {c : Char} (h : c.toNat < 0x80) : Unicode.combiningClass c = 0 := by
  rw [Unicode.combiningClass, if_pos (by omega)]

/-- What a mark is put behind has a class of its own, so only accents move. -/
theorem filter_insertMark {c : Char} (hc : Unicode.combiningClass c ≠ 0 → isAccent c = true)
    (t : Text) : (Unicode.insertMark c t).filter (!isAccent ·) = (c :: t).filter (!isAccent ·) := by
  induction t with
  | nil => rfl
  | cons d t ih =>
    rw [Unicode.insertMark]
    split
    · rename_i hmoves
      have haccent : isAccent c = true := hc (by omega)
      simp only [List.filter_cons, ih, haccent]
      simp
    · rfl

theorem filter_orderMarks {t : Text}
    (h : ∀ c ∈ t, Unicode.combiningClass c ≠ 0 → isAccent c = true) :
    (Unicode.orderMarks t).filter (!isAccent ·) = t.filter (!isAccent ·) := by
  induction t with
  | nil => rfl
  | cons c t ih =>
    obtain ⟨hc, ht⟩ := List.forall_mem_cons.mp h
    have hrest := ih ht
    simp only [Unicode.orderMarks] at hrest
    simp only [Unicode.orderMarks, List.foldr_cons, filter_insertMark hc, List.filter_cons, hrest]

theorem isAccent_of_class_of_plain {t : Text} (h : t.IsPlain) :
    ∀ d ∈ t.flatMap unfolded, Unicode.combiningClass d ≠ 0 → isAccent d = true := by
  intro d hd hclass
  obtain ⟨c, hc, hd⟩ := List.mem_flatMap.mp hd
  rcases h c hc with hascii | haccent
  · rw [unfolded_of_ascii hascii, List.mem_singleton] at hd
    subst hd
    exact absurd (combiningClass_of_ascii (toNat_toUpper_lt hascii)) hclass
  · by_cases hiota : c = iotaBelow
    · rw [hiota, unfolded_iotaBelow, List.mem_singleton] at hd
      subst hd
      exact absurd (by decide +kernel) hclass
    · exact isAccent_of_mem_unfolded haccent hiota hd

theorem fold_of_plain {t : Text} (h : t.IsPlain) : t.fold = unaccented (t.flatMap unfolded) := by
  rw [fold, Unicode.canonicalDecomposition, List.flatMap_assoc]
  exact filter_orderMarks (isAccent_of_class_of_plain h)

theorem mem_fold_of_iotaBelow {t : Text} (h : t.IsPlain) (hiota : iotaBelow ∈ t) :
    '\u0399' ∈ t.fold := by
  have hmem : '\u0399' ∈ unfolded iotaBelow := by
    rw [unfolded_iotaBelow]
    exact List.mem_singleton_self _
  rw [fold_of_plain h, unaccented, List.mem_filter]
  exact ⟨List.mem_flatMap.mpr ⟨iotaBelow, hiota, hmem⟩, by decide⟩

theorem fold_of_no_iotaBelow {t : Text} (h : t.IsPlain) (hiota : iotaBelow ∉ t) :
    t.fold = t.unaccented.map Char.toUpper := by
  rw [fold_of_plain h]
  induction t with
  | nil => rfl
  | cons c t ih =>
    obtain ⟨hc, ht⟩ := List.forall_mem_cons.mp h
    obtain ⟨hne, hrest⟩ := not_or.mp (mt List.mem_cons.mpr hiota)
    have hlater := ih ht hrest
    simp only [unaccented] at hlater
    simp only [unaccented, List.flatMap_cons, List.filter_append, hlater]
    rcases hc with hascii | haccent
    · have hupper := not_accent_of_ascii (toNat_toUpper_lt hascii)
      simp [unfolded_of_ascii hascii, not_accent_of_ascii hascii, hupper]
    · have hnone : (unfolded c).filter (!isAccent ·) = [] := by
        rw [List.filter_eq_nil_iff]
        intro d hd
        simp [isAccent_of_mem_unfolded haccent (Ne.symm hne) hd]
      simp [hnone, haccent]

end HourBank.Text
