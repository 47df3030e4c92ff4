import Threeboard.Library.Runs
import Threeboard.Storage.Requests

namespace Threeboard.Storage

open Records Runs

namespace Bench

variable {b : Bench} {s : Shortcuts}

theorem start_represents (fates : ℕ → Fate) : Represents (start erased fates).view Shortcuts.empty := by
  rw [view_erased]
  exact represents_empty

theorem serve_represents (h : Represents b.view s) (r : Request) :
    ∃ u, Represents (b.serve r).2.view u := by
  rcases serve_cases h r with ⟨-, -, hsucc⟩ | ⟨-, -, hfail⟩
  · exact ⟨_, hsucc.represents⟩
  · exact ⟨_, hfail.represents⟩

theorem final_represents (h : Represents b.view s) (requests : List Request) :
    ∃ u, Represents (final serve b requests).view u := by
  induction requests generalizing b s with
  | nil => exact ⟨s, h⟩
  | cons r rest ih =>
    obtain ⟨u, hu⟩ := serve_represents h r
    exact ih hu

theorem serve_failed (h : Represents b.view s) {r : Request} (hr : (b.serve r).1.ok = false) :
    Represents (b.serve r).2.view s := by
  rcases serve_cases h r with ⟨hok, -, -⟩ | ⟨-, -, hfailed⟩
  · simp [hr] at hok
  · exact hfailed.represents

theorem serve_succeeded (h : Represents b.view s) {r : Request} (hr : (b.serve r).1.ok = true) :
    (b.serve r).1 = (s.serve r).1 ∧ Represents (b.serve r).2.view (s.serve r).2 := by
  rcases serve_cases h r with ⟨-, hresp, hsucceeded⟩ | ⟨hok, -, -⟩
  · exact ⟨hresp, hsucceeded.represents⟩
  · simp [hr] at hok

def session (fates : ℕ → Fate) (requests : List Request) : Bench :=
  final serve (start erased fates) requests

def Refines (b : Bench) (s : Shortcuts) : Prop := Represents b.view s ∧ b.Calm

theorem serve_refines (b : Bench) (s : Shortcuts) (r : Request) (h : Refines b s) :
    (b.serve r).1 = (s.serve r).1 ∧ Refines (b.serve r).2 (s.serve r).2 := by
  obtain ⟨hrep, hcalm⟩ := h
  rcases serve_cases hrep r with ⟨-, hresp, hsucc⟩ | ⟨hok, hout, hfail⟩
  · exact ⟨hresp, hsucc.represents, hsucc.calm hcalm⟩
  · obtain ⟨hr, hkeys, hcalm'⟩ := hfail.refused hcalm
    rw [hr]
    refine ⟨?_, hfail.represents, hcalm'⟩
    have hdrop : (b.serve r).1.keypresses = (b.serve r).2.keypresses.drop b.keypresses.length := rfl
    rw [hkeys, List.drop_length] at hdrop
    calc (b.serve r).1 = ⟨(b.serve r).1.ok, (b.serve r).1.output, (b.serve r).1.keypresses⟩ := rfl
      _ = Response.rejected := by rw [hok, hout, hdrop]; rfl

end Bench

theorem controller_refines_shortcuts (requests : List Request) :
    trace Bench.serve (Bench.start erased fun _ => .succeed) requests =
        trace Shortcuts.serve Shortcuts.empty requests ∧
      Represents (final Bench.serve (Bench.start erased fun _ => .succeed) requests).view
        (final Shortcuts.serve Shortcuts.empty requests) ∧
      ∀ word, wordKeypresses WordModCode.lowercase word = word.map fun c => (c, 0) := by
  have hstart : Bench.Refines (Bench.start erased fun _ => .succeed) Shortcuts.empty :=
    ⟨Bench.start_represents _, fun _ => rfl⟩
  obtain ⟨htrace, hfinal⟩ := trace_eq_of_simulation Bench.serve_refines hstart requests
  exact ⟨htrace, hfinal.1, wordKeypresses_lowercase⟩

-- Under any faults of the external chips and of the host, an operation that fails changes nothing
-- and one that succeeds does exactly what the maps do, from every state faults can lead to.
theorem failed_operations_are_atomic (fates : ℕ → Fate) (before : List Request) :
    let b := Bench.session fates before
    ∃ s, Represents b.view s ∧
      (∀ r, (b.serve r).1.ok = false → Represents (b.serve r).2.view s) ∧
      (∀ r, (b.serve r).1.ok = true →
        (b.serve r).1 = (s.serve r).1 ∧ Represents (b.serve r).2.view (s.serve r).2) ∧
      (∀ r, (b.serve r).1.ok = false → ((b.serve r).2.serve r).1.ok = true →
        Represents ((b.serve r).2.serve r).2.view (s.serve r).2) ∧
      ∀ r, (b.serve r).1.ok = false → (b.serve r).2.Calm →
        ((b.serve r).2.serve r).1 = (s.serve r).1 := by
  intro b
  obtain ⟨s, hs⟩ := Bench.final_represents (Bench.start_represents fates) before
  refine ⟨s, hs, fun r => Bench.serve_failed hs, fun r => Bench.serve_succeeded hs,
    fun r hr hretry => ?_, fun r hr hcalm => ?_⟩
  · exact (Bench.serve_succeeded (Bench.serve_failed hs hr) hretry).2
  · exact (Bench.serve_refines _ s r ⟨Bench.serve_failed hs hr, hcalm⟩).1

end Threeboard.Storage
