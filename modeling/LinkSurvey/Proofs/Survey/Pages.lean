import LinkSurvey.Proofs.Survey.Interleaving
import Mathlib.Data.Multiset.Bind

/-!
Surveys side by side. A survey reads nothing but its options, its source and its target; so what it finds does
not depend on what is surveyed next to it, on how many surveys are under way, or on the order in which they and
the scripts of their pages finish. Even the time it takes is the time it would take alone.
-/

namespace LinkSurvey.Survey

variable (options : Options) (source : Fetch.Source) (parallel : Nat) (targets : List String)

theorem values_pages :
    (pages options source parallel targets).values
      = targets.map fun target => (page options source target).value :=
  Window.run_values 0

theorem toPageReport_timedReport (run : Run) (span : Nat) : (run.timedReport span).toPageReport = run.report :=
  rfl

/-- The clock shows the time that each survey would take alone. -/
theorem reports_pages :
    reports (pages options source parallel targets)
      = targets.map fun target =>
          (page options source target).value.timedReport (page options source target).span := by
  have htimed : (pages options source parallel targets).delivered.map
      (fun f => (⟨f.due - f.started, f.value⟩ : Timed Run)) = targets.map (page options source) :=
    Window.run_timed 0
  calc reports (pages options source parallel targets)
      = ((pages options source parallel targets).delivered.map
          (fun f => (⟨f.due - f.started, f.value⟩ : Timed Run))).map
            (fun run => run.value.timedReport run.span) := by rw [List.map_map]; rfl
    _ = _ := by rw [htimed, List.map_map]; rfl

theorem coe_flatMap_eq_sum {α β : Type} (f : α → List β) (l : List α) :
    (↑(l.flatMap f) : Multiset β) = (l.map fun a => (↑(f a) : Multiset β)).sum := by
  rw [← Multiset.coe_bind, Multiset.bind, Multiset.join, Multiset.map_coe, Multiset.sum_coe]

/-- Surveys that are stepped through in any order end with the reports and the calls of each target alone. -/
theorem Pool.Reaches.ended {s : Pool} (h : (Pool.start targets).Reaches options source parallel s)
    (hended : s.Ended) :
    s.delivered = (targets.map fun target => (page options source target).value.report)
      ∧ (↑s.calls : Multiset String)
        = (targets.map fun target => (↑(page options source target).value.calls : Multiset String)).sum := by
  obtain ⟨past, hsound⟩ := h.sound
  obtain ⟨hreports, hcalls⟩ := hsound.of_ended hended
  have hpage : ∀ target, ((page options source target).value.report, (page options source target).value.calls)
      = findings options source target := pageIn_findings Window.clock options source
  simp only [← hpage] at hreports hcalls
  exact ⟨hreports, (Multiset.coe_eq_coe.2 hcalls).trans (coe_flatMap_eq_sum _ targets)⟩

/-- Each report of a list is that of its target alone, and the surveys together ask for what they ask for one by
one, however many of them are under way. So it is also in whatever order the surveys and their scripts go on:
they can always be brought to an end, and they all end so. -/
theorem pages_apart :
    (reports (pages options source parallel targets)).map TimedReport.toPageReport
        = targets.map (fun target => (page options source target).value.report)
      ∧ (↑((pages options source parallel targets).values.flatMap Run.calls) : Multiset String)
        = (targets.map fun target => (↑(page options source target).value.calls : Multiset String)).sum
      ∧ ∀ s, (Pool.start targets).Reaches options source parallel s →
        (∃ t, s.Reaches options source parallel t ∧ t.Ended)
          ∧ (s.Ended → s.delivered = (targets.map fun target => (page options source target).value.report)
            ∧ (↑s.calls : Multiset String)
              = (targets.map fun target => (↑(page options source target).value.calls : Multiset String)).sum) := by
  refine ⟨?_, ?_, fun s hs => ⟨hs.exists_ended, hs.ended options source parallel targets⟩⟩
  · rw [reports_pages, List.map_map]
    simp only [Function.comp_def, toPageReport_timedReport]
  · rw [coe_flatMap_eq_sum, values_pages, List.map_map]
    rfl

end LinkSurvey.Survey
