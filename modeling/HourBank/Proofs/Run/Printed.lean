import HourBank.Proofs.Ledger.Operations
import HourBank.Proofs.Report.Columns
import HourBank.Proofs.Run.Executed

/-! What a run prints. Without styling it determines the entries, as nothing that the entries of a
run tell is left out. -/

namespace HourBank

namespace Entry

theorem eq_of_flatMap_printed_eq {es es' : List Entry} (hes : ∀ e ∈ es, e.HidesNothing)
    (hes' : ∀ e ∈ es', e.HidesNothing)
    (h : es.flatMap (·.printed false) = es'.flatMap (·.printed false)) : es = es' := by
  induction es generalizing es' with
  | nil =>
    cases es' with
    | nil => rfl
    | cons e' es' =>
      obtain ⟨blank', -, hprinted'⟩ := e'.exists_printed_eq
      simp [hprinted'] at h
  | cons e es ih =>
    obtain ⟨blank, -, hprinted⟩ := e.exists_printed_eq
    cases es' with
    | nil => simp [hprinted] at h
    | cons e' es' =>
      obtain ⟨blank', -, hprinted'⟩ := e'.exists_printed_eq
      obtain ⟨he, hrest⟩ := List.forall_mem_cons.mp hes
      obtain ⟨he', hrest'⟩ := List.forall_mem_cons.mp hes'
      have hline : ∀ e : Entry, ∀ c ∈ e.text false, (c == '\n') = false := by
        intro e c hc
        rw [beq_eq_false_iff_ne]
        rintro rfl
        exact e.newline_notMem_text hc
      rw [List.flatMap_cons, List.flatMap_cons] at h
      have hsplit := h
      rw [hprinted, hprinted', List.append_assoc, List.append_assoc] at hsplit
      obtain ⟨htext, -⟩ :=
        Text.append_inj_of_stop (hline e) (hline e') (by simp) (by simp) hsplit
      obtain rfl : e = e' := eq_of_text_eq he he' htext
      rw [ih hrest hrest' (List.append_cancel_left h)]

end Entry

namespace Run

/-- A run keeps the ledger that a coherent one fuses to, which has no time to hide. -/
theorem entries_hide_nothing (s : Schedule) (t : Text) :
    ∀ e ∈ (ofText (.start s) t).entries, e.HidesNothing := by
  obtain ⟨last, past, hfollow, htells⟩ := ofLines_tells (.start s) 1 t.lines
  have hpast : (∃ flat : FlatLedger, flat.Coherent s ∧ flat.fuse = last) ∧
      ∀ e ∈ past.entries, e.HidesNothing := by
    refine Ledger.follow_invariant
      (P := fun past l => (∃ flat : FlatLedger, flat.Coherent s ∧ flat.fuse = l) ∧
        ∀ e ∈ past.entries, e.HidesNothing) hfollow
      ⟨⟨.start s, FlatLedger.coherent_start s, rfl⟩, by simp [History.entries]⟩ ?_
    rintro past _ c next entries ⟨⟨flat, hflat, rfl⟩, hpast⟩ htakes
    have hstep := Ledger.step_eq_ok_iff.mpr htakes
    rw [flat.fuse_step, FlatLedger.map_fuse_eq_ok_iff] at hstep
    obtain ⟨flat', hstep, rfl⟩ := hstep
    have htakes' := FlatLedger.takes_of_step hstep
    refine ⟨⟨flat', htakes'.coherent hflat, rfl⟩, ?_⟩
    intro e he
    simp only [History.entries, List.flatMap_append, List.flatMap_singleton,
      List.mem_append] at he
    rcases he with hbefore | hnow
    · exact hpast e hbefore
    · rintro worked bankDelta bank rfl
      exact htakes'.worked_eq_zero hflat hnow
  obtain ⟨⟨flat, hflat, rfl⟩, hpast⟩ := hpast
  cases htells with
  | stopped hentries houtcome =>
    rw [ofText, hentries]
    exact hpast
  | closed hclose hentries houtcome =>
    rw [ofText, hentries, List.forall_mem_append]
    refine ⟨hpast, ?_⟩
    have hclose' := Ledger.close_eq_ok_iff.mpr hclose
    rw [flat.fuse_close, FlatLedger.map_fuse_eq_ok_iff] at hclose'
    obtain ⟨flat', hclose', -⟩ := hclose'
    rintro e he worked bankDelta bank rfl
    exact (FlatLedger.closes_of_close hclose').worked_eq_zero hflat he

/-- Two runs that print the same without styling show the same entries, even if their schedules and
texts differ, and no two entries that runs show are written alike. -/
theorem printed_determines_entries (s s' : Schedule) (t t' : Text) :
    ((ofText (.start s) t).printed false = (ofText (.start s') t').printed false →
      (ofText (.start s) t).entries = (ofText (.start s') t').entries) ∧
    ∀ e ∈ (ofText (.start s) t).entries, ∀ e' ∈ (ofText (.start s') t').entries,
      e.text false = e'.text false → e = e' := by
  have hshown := entries_hide_nothing s t
  have hshown' := entries_hide_nothing s' t'
  constructor
  · intro hprinted
    exact Entry.eq_of_flatMap_printed_eq hshown hshown' hprinted
  · intro e he e' he' htext
    exact Entry.eq_of_text_eq (hshown e he) (hshown' e' he') htext

theorem printed_determines_entries_strict_schedule :
    ∃ s s' t t', s = Schedule.standard ∧ s' = { Schedule.standard with tolerance := .zero } ∧
      t = "DATA 2024-01-01\nPONTO 09:00 18:00".toList ∧
      t' = "# week 1\ndata 2024-01-01\r\nponto 9:0 17:60".toList ∧
      (ofText (.start s) t).printed false = (ofText (.start s') t').printed false ∧
      (ofText (.start s) t).entries.length = 3 ∧
      (ofText (.start s) t).entries = (ofText (.start s') t').entries := by
  have hprinted :
      (ofText (.start .standard) "DATA 2024-01-01\nPONTO 09:00 18:00".toList).printed false =
        (ofText (.start { Schedule.standard with tolerance := .zero })
          "# week 1\ndata 2024-01-01\r\nponto 9:0 17:60".toList).printed false := by
    decide +kernel
  exact ⟨_, _, _, _, rfl, rfl, rfl, rfl, hprinted, by decide +kernel,
    (printed_determines_entries _ _ _ _).1 hprinted⟩

end Run

end HourBank
