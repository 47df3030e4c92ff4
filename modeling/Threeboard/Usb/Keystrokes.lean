import Threeboard.Usb.Typing

namespace Threeboard.Usb

open Actions Actions.Action Mcu UsbControllerImpl Runs

def downIn (key : UInt8) : List UInt8 := if key = 0 then [] else [key]

def keystroke (key mod : UInt8) : List (UInt8 × UInt8) := if key = 0 then [] else [(mod, key)]

@[simp] theorem downIn_zero : downIn 0 = [] := rfl
@[simp] theorem keystroke_zero (mod : UInt8) : keystroke 0 mod = [] := rfl

theorem keystroke_keys (key mod : UInt8) : (keystroke key mod).map Prod.snd = downIn key := by
  rw [keystroke, downIn]
  split <;> rfl

theorem eq_of_mem_downIn {key k : UInt8} (h : key ∈ downIn k) : downIn k = downIn key := by
  by_cases hk : k = 0
  · simp [downIn, hk] at h
  · simp only [downIn, if_neg hk, List.mem_singleton] at h
    rw [h]

theorem mem_downIn {key : UInt8} (h : key ≠ 0) : key ∈ downIn key := by simp [downIn, h]

theorem receive_press (key mod : UInt8) (host : Host) : host.receive (pressReport key mod) =
    ⟨downIn key, host.typed ++ if key ∈ host.down then [] else keystroke key mod⟩ := by
  have hkeys : keysIn (pressReport key mod) = downIn key := by
    by_cases hk : key = 0 <;> simp [keysIn, pressReport, downIn, hk]
  rw [Host.receive, hkeys]
  by_cases hk : key = 0
  · subst hk
    simp
  · by_cases hd : key ∈ host.down <;> simp [downIn, keystroke, hk, hd, pressReport]

theorem receive_release (host : Host) : host.receive (pressReport 0 0) = ⟨[], host.typed⟩ := by
  simp [receive_press]

theorem hold_report {hid : HidState} {k m : UInt8} (h : hid.report = pressReport k m)
    (key mod : UInt8) : (hold key mod hid).report = pressReport key mod := by
  have hothers : ∀ i, i ≠ 0 → hid.keyboardKeys i = 0 := by
    simp only [HidState.report, pressReport, List.ofFn_succ, List.cons.injEq] at h
    obtain ⟨-, -, -, h1, h2, h3, h4, h5, -⟩ := h
    simp only [Fin.forall_fin_succ]
    exact ⟨fun hne => absurd rfl hne, fun _ => h1, fun _ => h2, fun _ => h3, fun _ => h4,
      fun _ => h5, fun i => i.elim0⟩
  exact report_hold hothers key mod

def Due (asked : List (UInt8 × UInt8)) (key mod : UInt8) (host : Host) : Prop :=
  (host.receive (pressReport key mod)).typed.Sublist asked

def Answered (confirmed : List (UInt8 × UInt8)) (host : Host) : Prop :=
  ∃ key settled, host.down = downIn key ∧ host.typed.map Prod.snd = settled ++ downIn key ∧
    (confirmed.map Prod.snd).Sublist settled

def Pressed (confirmed : List (UInt8 × UInt8)) (key : UInt8) (host : Host) : Prop :=
  (confirmed.map Prod.snd ++ downIn key).Sublist (host.typed.map Prod.snd)

variable {asked confirmed : List (UInt8 × UInt8)} {key mod k m : UInt8} {host : Host}

theorem Due.typed (h : Due asked key mod host) : host.typed.Sublist asked := by
  rw [Due, receive_press] at h
  exact (List.sublist_append_left _ _).trans h

theorem Due.receive (h : Due asked key mod host) :
    Due asked key mod (host.receive (pressReport key mod)) := by
  rw [Due, receive_press key mod (host.receive _)]
  by_cases hk : key = 0
  · subst hk
    rw [keystroke_zero, ite_self, List.append_nil]
    exact h
  · have hdown : key ∈ (host.receive (pressReport key mod)).down := by
      rw [receive_press]
      exact mem_downIn hk
    rw [if_pos hdown, List.append_nil]
    exact h

theorem Due.hold (h : Due asked k m host) (key mod : UInt8) :
    Due (asked ++ keystroke key mod) key mod host := by
  rw [Due, receive_press]
  refine h.typed.append ?_
  split
  · exact List.nil_sublist _
  · exact .refl _

theorem Due.release (h : Due asked k m host) : Due asked 0 0 host := by
  have hnext := h.hold 0 0
  rwa [keystroke_zero, List.append_nil] at hnext

theorem Answered.receive (h : Answered confirmed host) (key mod : UInt8) :
    Answered confirmed (host.receive (pressReport key mod)) ∧
      Pressed confirmed key (host.receive (pressReport key mod)) := by
  obtain ⟨k, settled, hdown, htyped, hsub⟩ := h
  rw [Answered, Pressed, receive_press, hdown]
  by_cases hd : key ∈ downIn k
  · rw [if_pos hd, List.append_nil, htyped, eq_of_mem_downIn hd]
    exact ⟨⟨key, settled, rfl, rfl, hsub⟩, hsub.append (.refl _)⟩
  · have hall : (confirmed.map Prod.snd).Sublist (host.typed.map Prod.snd) := by
      rw [htyped]
      exact hsub.trans (List.sublist_append_left _ _)
    rw [if_neg hd, List.map_append, keystroke_keys]
    exact ⟨⟨key, _, rfl, rfl, hall⟩, hall.append (.refl _)⟩

theorem Pressed.receive (h : Pressed confirmed key host) (k m : UInt8) :
    Pressed confirmed key (host.receive (pressReport k m)) := by
  rw [Pressed, receive_press, List.map_append]
  exact h.trans (List.sublist_append_left _ _)

theorem Pressed.answered (h : Pressed confirmed key host) (mod : UInt8) :
    Answered (confirmed ++ keystroke key mod) (host.receive (pressReport 0 0)) := by
  refine ⟨0, host.typed.map Prod.snd, ?_, ?_, ?_⟩
  · rw [receive_release]
    rfl
  · rw [receive_release, downIn_zero, List.append_nil]
  · rw [List.map_append, keystroke_keys]
    exact h

section Calls

variable {descriptorList : List DescriptorContainer} {polls : ℕ} {careful : Prop} {during : During}
  {u : Device Line}

def Tallies (careful : Prop) (asked confirmed : List (UInt8 × UInt8)) (key mod : UInt8)
    (host : Host) : Prop :=
  Due asked key mod host ∧ (careful → Answered confirmed host)

theorem Tallies.receive (h : Tallies careful asked confirmed key mod host) :
    Tallies careful asked confirmed key mod (host.receive (pressReport key mod)) :=
  ⟨h.1.receive, fun hc => ((h.2 hc).receive key mod).1⟩

def Rests (careful : Prop) (asked confirmed : List (UInt8 × UInt8)) (u : Device Line) : Prop :=
  ∃ key mod, Hears (pressReport key mod) (Tallies careful asked confirmed key mod) u

theorem modifiers_report {hid : HidState} (h : hid.report = pressReport k m) (mod : UInt8) :
    { hid with modifierKeys := mod }.report = pressReport k mod := by
  simp only [HidState.report, pressReport, List.cons.injEq, true_and] at h ⊢
  exact h.2

theorem holdAmid_hears {P Q : Host → Prop} (hwhole : Whole descriptorList polls during)
    (h : Hears (pressReport k m) P u) (hpq : ∀ host, P host → Q host) (key mod : UInt8)
    (hq : ∀ host, Q host → Q (host.receive (pressReport key mod))) :
    wp (holdAmid (answering descriptorList polls during) key mod)
      (fun _ => Hears (pressReport key mod) Q) (fun _ => False) u := by
  let half : Device Line := { u with hidState := { u.hidState with modifierKeys := mod } }
  let met := (during .holding half).foldl (answer descriptorList polls) half
  let held : Device Line := { met with
    hidState := { met.hidState with keyboardKeys := Function.update met.hidState.keyboardKeys 0 key } }
  have hhalf : Hears (pressReport k mod) P half := ⟨modifiers_report h.report mod, h.bank, h.host⟩
  have hmet : Hears (pressReport k mod) P met :=
    hears_holding descriptorList polls hwhole half hhalf
  have hmod : met.hidState.modifierKeys = mod := by
    have hreport := hmet.report
    simp only [HidState.report, pressReport, List.cons.injEq] at hreport
    exact hreport.1
  have hsame : held.hidState = hold key mod met.hidState := by
    rw [hold, ← hmod]
  have hheld : Hears (pressReport key mod) Q held := by
    refine ⟨?_, hmet.bank, hpq _ hmet.host⟩
    rw [hsame]
    exact hold_report hmet.report key mod
  have hrun : holdAmid (answering descriptorList polls during) key mod u =
      (some (), (during .waiting held).foldl (answer descriptorList polls) held) := rfl
  exact wp_of_some hrun (hears_answering descriptorList polls hq during .waiting held hheld)

variable (descriptorList polls) in
theorem sendKeypressAmid_rests (h : Rests careful asked confirmed u) (key mod : UInt8)
    (hwhole : Whole descriptorList polls during) (hduring : careful → Undisturbing during) :
    wp ((Line.controller descriptorList polls).sendKeypressAmid
      (answering descriptorList polls during) key mod)
      (fun sent => Rests careful (asked ++ keystroke key mod)
        (if sent then confirmed ++ keystroke key mod else confirmed))
      (Rests careful (asked ++ keystroke key mod) confirmed) u := by
  obtain ⟨k, m, hears⟩ := h
  let asked' := asked ++ keystroke key mod
  have hreceive (key mod : UInt8) : ∀ host,
      Tallies careful asked' confirmed key mod host →
        Tallies careful asked' confirmed key mod (host.receive (pressReport key mod)) :=
    fun _ => Tallies.receive
  have hpress := holdAmid_hears (Q := Tallies careful asked' confirmed key mod) hwhole hears
    (fun _ hhost => ⟨hhost.1.hold key mod, hhost.2⟩) key mod (hreceive key mod)
  rw [sendKeypressAmid, wp_bind]
  refine wp_mono hpress (fun _ v hv => ?_) fun _ hf => hf.elim
  rw [wp_bind]
  refine wp_mono (sendStateAmid_reported (Q := fun host => careful → Pressed confirmed key host)
    (hreceive key mod) hduring hwhole (fun _ hhost hc => ((hhost.2 hc).receive key mod).2)
    (fun _ hhost hc => (hhost hc).receive key mod) hv)
    (fun sent v hv => ?_) fun v hv => ⟨key, mod, hv⟩
  cases sent with
  | false => exact ⟨key, mod, hv.mono fun _ => And.left⟩
  | true =>
    let P (host : Host) : Prop :=
      Tallies careful asked' confirmed 0 0 host ∧ (careful → Pressed confirmed key host)
    have hkept : ∀ host, P host → P (host.receive (pressReport 0 0)) := fun host hhost =>
      ⟨hreceive 0 0 host hhost.1, fun hc => (hhost.2 hc).receive 0 0⟩
    have hrelease := holdAmid_hears (Q := P) hwhole hv
      (fun _ hhost => ⟨⟨hhost.1.1.release, hhost.1.2⟩, fun hc => hhost.2 hc rfl hc⟩) 0 0 hkept
    rw [if_pos rfl, wp_bind]
    refine wp_mono hrelease (fun _ v hv => ?_) fun _ hf => hf.elim
    refine wp_mono (sendStateAmid_reported
      (Q := fun host => careful → Answered (confirmed ++ keystroke key mod) host)
      hkept hduring hwhole (fun _ hhost hc => (hhost.2 hc).answered mod)
      (fun _ hhost hc => ((hhost hc).receive 0 0).1) hv) (fun sent w hw => ⟨0, 0, ?_⟩)
      fun w hw => ⟨0, 0, hw.mono fun _ => And.left⟩
    cases sent with
    | false => exact hw.mono fun _ hhost => hhost.1.1
    | true => exact hw.mono fun _ hhost => ⟨hhost.1.1.1, fun hc => hhost.2 hc rfl hc⟩

end Calls

structure Typist where
  device : Device Line
  asked : List (UInt8 × UInt8) := []
  confirmed : List (UInt8 × UInt8) := []

def Typist.powered (script : Script) : Typist := { device := .initial { script } }

def Typist.typed (t : Typist) : List (UInt8 × UInt8) := t.device.hardware.host.typed

inductive Typist.Activity where
  | interrupt (i : Interrupt Script)
  | keypress (script : Script) (key mod : UInt8) (during : During)

section Runs

variable (descriptorList : List DescriptorContainer) (polls : ℕ)

def Typist.Activity.Whole : Typist.Activity → Prop
  | .interrupt _ => True
  | .keypress _ _ _ during => Usb.Whole descriptorList polls during

def Typist.Activity.Undisturbed : Typist.Activity → Prop
  | .interrupt _ => True
  | .keypress _ _ _ during => Undisturbing during

def Typist.perform (t : Typist) : Typist.Activity → Typist
  | .interrupt i => { t with device := answer descriptorList polls t.device i }
  | .keypress script key mod during =>
    let (sent, device) := (Line.controller descriptorList polls).sendKeypressAmid
      (answering descriptorList polls during) key mod (t.device.meeting script)
    { device
      asked := t.asked ++ keystroke key mod
      confirmed := if sent = some true then t.confirmed ++ keystroke key mod else t.confirmed }

variable {careful : Prop}

theorem rests_answer {asked confirmed : List (UInt8 × UInt8)} {u : Device Line}
    (h : Rests careful asked confirmed u) (i : Interrupt Script) :
    Rests careful asked confirmed (answer descriptorList polls u i) := by
  obtain ⟨key, mod, hears⟩ := h
  have hreceive : ∀ host, Tallies careful asked confirmed key mod host →
      Tallies careful asked confirmed key mod (host.receive (pressReport key mod)) :=
    fun _ => Tallies.receive
  exact ⟨key, mod, hears_answer descriptorList polls hreceive i hears⟩

theorem rests_perform {t : Typist} (h : Rests careful t.asked t.confirmed t.device)
    {activity : Typist.Activity} (hwhole : activity.Whole descriptorList polls)
    (ha : careful → activity.Undisturbed) :
    let next := t.perform descriptorList polls activity
    Rests careful next.asked next.confirmed next.device := by
  cases activity with
  | interrupt i => exact rests_answer descriptorList polls h i
  | keypress script key mod during =>
    have hstart : Rests careful t.asked t.confirmed (t.device.meeting script) := by
      obtain ⟨k, m, hears⟩ := h
      exact ⟨k, m, hears.of_outside rfl rfl⟩
    have hsend := sendKeypressAmid_rests descriptorList polls hstart key mod hwhole ha
    rcases hrun : (Line.controller descriptorList polls).sendKeypressAmid
      (answering descriptorList polls during) key mod (t.device.meeting script) with ⟨_ | sent, v⟩
    · have hstopped := wp_none hsend hrun
      simpa only [Typist.perform, hrun, reduceCtorEq, if_false] using hstopped
    · have hsent := wp_some hsend hrun
      simpa only [Typist.perform, hrun, Option.some.injEq] using hsent

theorem rests_run {t : Typist} (h : Rests careful t.asked t.confirmed t.device)
    {activities : List Typist.Activity}
    (hwhole : ∀ activity ∈ activities, activity.Whole descriptorList polls)
    (ha : careful → ∀ activity ∈ activities, activity.Undisturbed) :
    let last := activities.foldl (Typist.perform descriptorList polls) t
    Rests careful last.asked last.confirmed last.device := by
  induction activities generalizing t with
  | nil => exact h
  | cons activity rest ih =>
    obtain ⟨hfirst, hrest⟩ := List.forall_mem_cons.mp hwhole
    refine ih (rests_perform descriptorList polls h hfirst fun hc => ?_) hrest fun hc other hmem => ?_
    · exact ha hc activity (List.mem_cons_self ..)
    · exact ha hc other (List.mem_cons_of_mem _ hmem)

theorem rests_powered (script : Script) :
    Rests careful [] [] (Typist.powered script).device := by
  refine ⟨0, 0, rfl, rfl, ?_, fun _ => ⟨0, [], rfl, rfl, .refl _⟩⟩
  rw [Due, receive_release]
  exact .refl _

theorem Answered.typed {confirmed : List (UInt8 × UInt8)} {host : Host} (h : Answered confirmed host) :
    (confirmed.map Prod.snd).Sublist (host.typed.map Prod.snd) := by
  obtain ⟨key, settled, -, htyped, hsub⟩ := h
  rw [htyped]
  exact hsub.trans (List.sublist_append_left _ _)

end Runs

-- As long as no interrupt tears a report, the host types nothing that was not asked for, in no other
-- order and nothing twice. It types all that was said to be sent as well, unless a control request or
-- a reset comes when a report is about to be sent.
theorem keystrokes_reach_host (descriptorList : List DescriptorContainer) (polls : ℕ)
    (script : Script) (activities : List Typist.Activity)
    (hwhole : ∀ activity ∈ activities, activity.Whole descriptorList polls) :
    let t := activities.foldl (Typist.perform descriptorList polls) (.powered script)
    t.typed.Sublist t.asked ∧
      ((∀ activity ∈ activities, activity.Undisturbed) →
        (t.confirmed.map Prod.snd).Sublist (t.typed.map Prod.snd) ∧
          (t.confirmed = t.asked → t.typed = t.asked)) := by
  intro t
  have hstart : Rests (∀ activity ∈ activities, activity.Undisturbed)
      (Typist.powered script).asked (Typist.powered script).confirmed
        (Typist.powered script).device := rests_powered script
  obtain ⟨key, mod, hears⟩ := rests_run descriptorList polls hstart hwhole id
  have htyped : t.typed.Sublist t.asked := hears.host.1.typed
  refine ⟨htyped, fun hcareful => ?_⟩
  have hconfirmed : (t.confirmed.map Prod.snd).Sublist (t.typed.map Prod.snd) :=
    (hears.host.2 hcareful).typed
  refine ⟨hconfirmed, fun hall => htyped.eq_of_length_le ?_⟩
  have hlength := hconfirmed.length_le
  rwa [List.length_map, List.length_map, hall] at hlength

def writableLine : Script := { answers := fun _ _ => bit RWAL, sreg := bit SREG_I }

def undisturbed : During := fun _ _ => []

def everyFrame : During
  | .looking, u => [.general { u.hardware.script with answers := fun _ _ => bit RWAL ||| bit SOFI }]
  | .sending, u =>
    if u.hardware.script.uenum = kKeyboardEndpoint ∧
        u.hidState.idleCount + 1 ≠ u.hidState.idleConfig then
      [.general { u.hardware.script with answers := fun _ _ => bit RWAL ||| bit SOFI }]
    else []
  | .waiting, _ | .holding, _ => []

theorem everyFrame_whole (descriptorList : List DescriptorContainer) (polls : ℕ) :
    Whole descriptorList polls everyFrame := by
  refine fun u => ⟨trivial, ?_⟩
  have hnone : (bit RWAL ||| bit SOFI) &&& bit EORSTI = 0 := by decide
  by_cases h : u.hardware.script.uenum = kKeyboardEndpoint ∧
      u.hidState.idleCount + 1 ≠ u.hidState.idleConfig
  · rw [everyFrame, if_pos h]
    exact ⟨⟨hnone, rfl, fun _ => h⟩, trivial⟩
  · rw [everyFrame, if_neg h]
    trivial

theorem everyFrame_undisturbing : Undisturbing everyFrame := by
  intro u hselected i hi
  obtain rfl := List.mem_singleton.mp hi
  have hnone : (bit RWAL ||| bit SOFI) &&& bit EORSTI = 0 := by decide
  exact ⟨hnone, hselected⟩

theorem undisturbed_whole (descriptorList : List DescriptorContainer) (polls : ℕ) :
    Whole descriptorList polls undisturbed := fun _ => ⟨trivial, trivial⟩

theorem undisturbed_undisturbing : Undisturbing undisturbed :=
  fun _ _ _ hi => absurd hi List.not_mem_nil

def typingTwice : List Typist.Activity :=
  [.keypress writableLine 0x04 0x02 everyFrame, .keypress writableLine 0x04 0 undisturbed]

theorem keystrokes_reach_host_twice :
    (typingTwice.foldl (Typist.perform [] 1) (.powered writableLine)).typed =
      [(0x02, 0x04), (0, 0x04)] := by
  have hasked : (typingTwice.foldl (Typist.perform [] 1) (.powered writableLine)).asked =
      [(0x02, 0x04), (0, 0x04)] := by decide +kernel
  have hall : (typingTwice.foldl (Typist.perform [] 1) (.powered writableLine)).confirmed =
      (typingTwice.foldl (Typist.perform [] 1) (.powered writableLine)).asked := by decide +kernel
  have hwhole : ∀ activity ∈ typingTwice, activity.Whole [] 1 := List.forall_mem_cons.mpr
    ⟨everyFrame_whole [] 1, List.forall_mem_singleton.mpr (undisturbed_whole [] 1)⟩
  have hundisturbed : ∀ activity ∈ typingTwice, activity.Undisturbed := List.forall_mem_cons.mpr
    ⟨everyFrame_undisturbing, List.forall_mem_singleton.mpr undisturbed_undisturbing⟩
  exact (((keystrokes_reach_host [] 1 writableLine typingTwice hwhole).2 hundisturbed).2 hall).trans
    hasked

-- An endpoint interrupt when a report is about to be sent selects endpoint 0, and the report goes there.
example : (([Typist.Activity.keypress writableLine 0x04 0 fun
      | .looking, u => [.endpoint u.hardware.script]
      | _, _ => []] : List Typist.Activity).foldl (Typist.perform [] 1)
        (.powered writableLine)).typed = [] := by
  decide +kernel

-- One that comes after the first byte of a release leaves this byte to the report of the next key.
example : (([.keypress writableLine 0x04 0x02 fun
      | .sending, u => if u.hardware.bank = [0] then [.endpoint u.hardware.script] else []
      | _, _ => [],
    .keypress writableLine 0x05 0x02 undisturbed] : List Typist.Activity).foldl
      (Typist.perform [] 1) (.powered writableLine)).typed = [(0x02, 0x04), (0, 0x05)] := by
  decide +kernel

end Threeboard.Usb
