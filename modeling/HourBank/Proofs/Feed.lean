/-! Inputs fed to a state one after the other. What they report is collected, and the first error
ends the feed. -/

namespace HourBank

variable {α β ε σ : Type}

theorem bind_eq_ok_iff {x : Except ε α} {f : α → Except ε β} {b : β} :
    x >>= f = .ok b ↔ ∃ a, x = .ok a ∧ f a = .ok b := by
  cases x <;> simp [bind, Except.bind]

theorem bind_eq_error_iff {x : Except ε α} {f : α → Except ε β} {e : ε} :
    x >>= f = .error e ↔ x = .error e ∨ ∃ a, x = .ok a ∧ f a = .error e := by
  cases x <;> simp [bind, Except.bind]

theorem mapError_eq_ok_iff {ε' : Type} {x : Except ε α} {g : ε → ε'} {a : α} :
    x.mapError g = .ok a ↔ x = .ok a := by
  cases x with
  | error e => exact ⟨nofun, nofun⟩
  | ok b =>
    exact ⟨fun h => congrArg Except.ok (Except.ok.inj h),
      fun h => congrArg Except.ok (Except.ok.inj h)⟩

theorem mapError_bind {ε' : Type} (x : Except ε α) (f : α → Except ε β) (g : ε → ε') :
    (x >>= f).mapError g = x.mapError g >>= fun a => (f a).mapError g := by
  cases x <;> rfl

/-- Takes each input in the state that the one before it led to. -/
def feed (f : σ → α → Except ε (σ × List β)) (s : σ) : List α → Except ε (σ × List β)
  | [] => .ok (s, [])
  | a :: rest => do
    let (next, report) ← f s a
    let (last, reports) ← feed f next rest
    return (last, report ++ reports)

variable {f : σ → α → Except ε (σ × List β)} {s t : σ} {as bs : List α} {out : List β}

theorem feed_nil_eq_ok_iff : feed f s [] = .ok (t, out) ↔ t = s ∧ out = [] := by
  simp [feed, eq_comm]

theorem feed_cons_eq_ok_iff {a : α} : feed f s (a :: as) = .ok (t, out) ↔
    ∃ mid report reports, f s a = .ok (mid, report) ∧ feed f mid as = .ok (t, reports) ∧
      out = report ++ reports := by
  simp only [feed, bind_eq_ok_iff, Prod.exists, pure, Except.pure, Except.ok.injEq, Prod.mk.injEq]
  constructor
  · rintro ⟨mid, report, hf, last, reports, hrest, rfl, rfl⟩
    exact ⟨mid, report, reports, hf, hrest, rfl⟩
  · rintro ⟨mid, report, reports, hf, hrest, rfl⟩
    exact ⟨mid, report, hf, t, reports, hrest, rfl, rfl⟩

theorem feed_singleton_eq_ok_iff {a : α} :
    feed f s [a] = .ok (t, out) ↔ f s a = .ok (t, out) := by
  rw [feed_cons_eq_ok_iff]
  constructor
  · rintro ⟨mid, report, reports, hf, hrest, rfl⟩
    obtain ⟨rfl, rfl⟩ := feed_nil_eq_ok_iff.mp hrest
    simpa using hf
  · intro hf
    exact ⟨t, out, [], hf, feed_nil_eq_ok_iff.mpr ⟨rfl, rfl⟩, by simp⟩

theorem feed_append_eq_ok_iff : feed f s (as ++ bs) = .ok (t, out) ↔
    ∃ mid first second, feed f s as = .ok (mid, first) ∧ feed f mid bs = .ok (t, second) ∧
      out = first ++ second := by
  induction as generalizing s out with
  | nil =>
    constructor
    · intro h
      exact ⟨s, [], out, rfl, h, rfl⟩
    · rintro ⟨mid, first, second, hs, hb, rfl⟩
      obtain ⟨rfl, rfl⟩ := feed_nil_eq_ok_iff.mp hs
      exact hb
  | cons a as ih =>
    simp only [List.cons_append, feed_cons_eq_ok_iff, ih]
    constructor
    · rintro ⟨next, report, reports, hf, ⟨mid, first, second, ha, hb, rfl⟩, rfl⟩
      exact ⟨mid, report ++ first, second, ⟨next, report, first, hf, ha, rfl⟩, hb, by simp⟩
    · rintro ⟨mid, _, second, ⟨next, report, first, hf, ha, rfl⟩, hb, rfl⟩
      exact ⟨next, report, first ++ second, hf, ⟨mid, first, second, ha, hb, rfl⟩, by simp⟩

/-- What every step keeps, said of the inputs taken so far, the state and the reports, holds at the
end of a feed. -/
theorem feed_invariant {P : List α → σ → List β → Prop} (h : feed f s as = .ok (t, out))
    (hstart : P [] s [])
    (hstep : ∀ taken s out a next report, P taken s out → f s a = .ok (next, report) →
      P (taken ++ [a]) next (out ++ report)) : P as t out := by
  -- The induction is on the inputs still to come, whatever was taken before them.
  have hfrom : ∀ taken earlier, P taken s earlier → P (taken ++ as) t (earlier ++ out) := by
    clear hstart
    induction as generalizing s out with
    | nil =>
      obtain ⟨rfl, rfl⟩ := feed_nil_eq_ok_iff.mp h
      simp
    | cons a as ih =>
      obtain ⟨mid, report, reports, hf, hrest, rfl⟩ := feed_cons_eq_ok_iff.mp h
      intro taken earlier hP
      simpa using ih hrest (taken ++ [a]) (earlier ++ report) (hstep _ _ _ _ _ _ hP hf)
  exact hfrom [] [] hstart

/-- Two feeds whose steps agree through `φ` agree through it to the end. -/
theorem feed_map {τ : Type} {g : τ → α → Except ε (τ × List β)} {φ : σ → τ}
    (h : ∀ s a, g (φ s) a = Prod.map φ id <$> f s a) (s : σ) (as : List α) :
    feed g (φ s) as = Prod.map φ id <$> feed f s as := by
  induction as generalizing s with
  | nil => rfl
  | cons a as ih =>
    cases hf : f s a with
    | error e =>
      simp only [feed, h, hf]
      rfl
    | ok result =>
      obtain ⟨next, report⟩ := result
      have hrest : feed g (φ next) as = Prod.map φ id <$> feed f next as := ih next
      simp only [feed, h, hf, map_bind, map_pure]
      change feed g (φ next) as >>= _ = feed f next as >>= _
      rw [hrest]
      cases feed f next as <;> rfl

/-- A feed that ends in an error meets it at some input, after all before went well. -/
theorem feed_split_of_error {e : ε} (h : feed f s as = .error e) :
    ∃ before a after mid first, as = before ++ a :: after ∧
      feed f s before = .ok (mid, first) ∧ f mid a = .error e := by
  induction as generalizing s with
  | nil => simp [feed] at h
  | cons a as ih =>
    cases hf : f s a with
    | error e' =>
      obtain rfl : e' = e := by simpa [feed, hf, bind, Except.bind] using h
      exact ⟨[], a, as, s, [], rfl, rfl, hf⟩
    | ok result =>
      obtain ⟨next, report⟩ := result
      have hrest : feed f next as = .error e := by
        cases hr : feed f next as <;>
          simp_all [feed, bind, Except.bind, pure, Except.pure]
      obtain ⟨before, b, after, mid, first, rfl, hbefore, hb⟩ := ih hrest
      exact ⟨a :: before, b, after, mid, report ++ first, rfl,
        feed_cons_eq_ok_iff.mpr ⟨next, report, first, hf, hbefore, rfl⟩, hb⟩

end HourBank
