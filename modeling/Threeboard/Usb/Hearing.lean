import Threeboard.Usb.Host
import Threeboard.Usb.Interruptions
import Threeboard.Library.Runs

namespace Threeboard.Usb

open Actions Actions.Action Mcu UsbControllerImpl Runs

variable {descriptorList : List DescriptorContainer} {polls : ℕ}

structure Hears (report : List UInt8) (P : Host → Prop) (u : Device Line) : Prop where
  report : u.hidState.report = report
  bank : u.hardware.bank = []
  host : P u.hardware.host

variable {report : List UInt8} {P Q : Host → Prop} {u v : Device Line}

theorem Hears.of_outside (h : Hears report P u) (hreport : v.hidState.report = u.hidState.report)
    (hout : v.hardware.outside = u.hardware.outside) : Hears report P v := by
  obtain ⟨hbank, hhost⟩ := Line.of_outside hout
  exact ⟨hreport.trans h.report, hbank.trans h.bank, hhost ▸ h.host⟩

theorem Hears.mono (h : Hears report P u) (hpq : ∀ host, P host → Q host) : Hears report Q u :=
  ⟨h.report, h.bank, hpq _ h.host⟩

theorem report_of_sameKeys {hid hid' : HidState} (h : hid.SameKeys hid') :
    hid'.report = hid.report := by
  rw [HidState.report, HidState.report, h.1, h.2]

section Sending

def Line.filled (bytes : List UInt8) (w : Line) : Line := bytes.foldl (fun w byte => w.writing .UEDATX byte) w

theorem Line.filled_selected (bytes : List UInt8) (w : Line) :
    (w.filled bytes).selected ↔ w.selected := by
  induction bytes generalizing w with
  | nil => rfl
  | cons byte rest ih => exact (ih _).trans (Line.writing_selected .UEDATX byte w (by decide))

theorem Line.filled_outside (bytes : List UInt8) (w : Line) :
    (w.filled bytes).outside = if w.selected then (w.bank ++ bytes, w.host) else w.outside := by
  induction bytes generalizing w with
  | nil =>
    rw [List.append_nil]
    exact (ite_self _).symm
  | cons byte rest ih =>
    refine (ih _).trans ?_
    simp only [Line.writing_selected .UEDATX byte w (by decide)]
    by_cases hs : w.selected
    · obtain ⟨hbank, hhost⟩ := Line.of_outside (Line.writing_byte byte w hs)
      rw [if_pos hs, if_pos hs, hbank, hhost, List.append_assoc]
      rfl
    · rw [if_neg hs, if_neg hs]
      exact Line.writing_unselected .UEDATX byte w hs

theorem line_fill (bytes : List UInt8) (u : Device Line) :
    (Line.controller descriptorList polls).fill bytes u =
      (some (), u.onLine (Line.filled bytes)) := by
  induction bytes generalizing u with
  | nil => rfl
  | cons byte rest ih =>
    rw [fill, List.forM_cons, bind_of_some (line_set .UEDATX byte u)]
    exact ih _

def HidState.counted (hid : HidState) : HidState := { hid with idleCount := 0 }

theorem counted_report (hid : HidState) : hid.counted.report = hid.report := by
  rw [HidState.report, HidState.report, HidState.counted]

def Device.transmitting (u : Device Line) : Device Line :=
  Device.onLine (fun w => (w.filled u.hidState.counted.report).writing .UEINTX doneFlags)
    { u with hidState := u.hidState.counted }

theorem line_sendHidState (u : Device Line) :
    (Line.controller descriptorList polls).sendHidState u = (some (), u.transmitting) := by
  rw [sendHidState, updateHid, modify_bind, gets_bind, bind_of_some (line_fill _ _), line_set]
  simp only [Device.transmitting, Device.onLine, HidState.counted, doneFlags]

theorem transmitting_report (u : Device Line) :
    u.transmitting.hidState.report = u.hidState.report := counted_report u.hidState

theorem transmitting_outside (h : u.hardware.bank = []) : u.transmitting.hardware.outside =
    ([], if u.hardware.selected then u.hardware.host.receive u.hidState.report else u.hardware.host) := by
  have hline : u.transmitting.hardware =
      (u.hardware.filled u.hidState.counted.report).writing .UEINTX doneFlags := by
    simp only [Device.transmitting, Device.onLine]
  have hout := Line.filled_outside u.hidState.report u.hardware
  have hsel := Line.filled_selected u.hidState.report u.hardware
  rw [hline, counted_report]
  by_cases hs : u.hardware.selected
  · rw [if_pos hs, h, List.nil_append] at hout
    obtain ⟨hbank, hhost⟩ := Line.of_outside hout
    rw [Line.writing_done _ (hsel.mpr hs), if_pos hs, hbank, hhost]
  · rw [if_neg hs] at hout
    rw [Line.writing_unselected .UEINTX doneFlags _ (fun hf => hs (hsel.mp hf)), if_neg hs, hout, ← h]
    rfl

theorem Hears.transmitting (h : Hears report P u) (hp : ∀ host, P host → P (host.receive report)) :
    Hears report P u.transmitting := by
  obtain ⟨hbank, hhost⟩ := Line.of_outside (transmitting_outside h.bank)
  refine ⟨(transmitting_report u).trans h.report, hbank, ?_⟩
  rw [hhost]
  split
  · exact h.report ▸ hp _ h.host
  · exact h.host

end Sending

section Frames

theorem hears_get (r : Register) :
    Keeps (Hears report P) ((Line.controller descriptorList polls).get r) :=
  fun _ h => h.of_outside rfl rfl

theorem hears_set {r : Register} (hr : r ≠ .UEDATX) (hx : r ≠ .UEINTX) (value : UInt8) :
    Keeps (Hears report P) ((Line.controller descriptorList polls).set r value) := by
  intro u h
  rw [line_set]
  exact h.of_outside rfl (Line.writing_outside _ hr fun hv => hx hv.1)

theorem hears_updateHid {f : HidState → HidState} (hf : ∀ hid : HidState, hid.SameKeys (f hid)) :
    Keeps (Hears report P) (updateHid f) :=
  fun u h => h.of_outside (report_of_sameKeys (hf u.hidState)) rfl

theorem hears_record (event : Event) : Keeps (Hears report P) (record event) :=
  fun _ h => h.of_outside rfl rfl

variable (hp : ∀ host, P host → P (host.receive report))

include hp

theorem hears_sendHidState :
    Keeps (Hears report P) (Line.controller descriptorList polls).sendHidState := by
  intro u h
  rw [line_sendHidState]
  exact h.transmitting hp

theorem hears_countFrame :
    Keeps (Hears report P) (Line.controller descriptorList polls).countFrame := by
  refine (hears_get _).bind fun _ => (Keeps.gets _).bind fun _ => .ite ?_ (.pure ())
  refine (hears_set (by decide) (by decide) _).bind fun _ => (hears_get _).bind fun _ =>
    .ite ?_ (.pure ())
  refine .bind (hears_updateHid fun _ => ⟨rfl, rfl⟩) fun _ => (Keeps.gets _).bind fun _ => ?_
  exact .ite (hears_sendHidState hp) (.pure ())

theorem hears_handleGeneralInterrupt :
    Keeps (Hears report P) (Line.controller descriptorList polls).handleGeneralInterrupt := by
  refine (hears_get _).bind fun _ => (hears_set (by decide) (by decide) _).bind fun _ => ?_
  have hreset : Keeps (Hears report P) (Line.controller descriptorList polls).configureEndpoint0 :=
    (hears_record _).bind fun _ => (hears_set (by decide) (by decide) _).bind fun _ =>
      (hears_set (by decide) (by decide) _).bind fun _ =>
        (hears_set (by decide) (by decide) _).bind fun _ =>
          (hears_set (by decide) (by decide) _).bind fun _ => hears_set (by decide) (by decide) _
  have hframe (deviceInterrupt : UInt8) : Keeps (Hears report P)
      (if deviceInterrupt &&& bit SOFI ≠ 0 then
        (Line.controller descriptorList polls).countFrame else pure ()) :=
    .ite (hears_countFrame hp) (.pure ())
  exact .ite (hreset.bind fun _ => hframe _) (hframe _)

omit hp in
theorem hears_handleEndpointInterrupt :
    Keeps (Hears report P) (Line.controller descriptorList polls).handleEndpointInterrupt := by
  intro u h
  have hkeys := (Line.controller descriptorList polls).interrupt_sameKeys u (.endpoint u.hardware)
  exact h.of_outside (report_of_sameKeys hkeys) (handleEndpointInterrupt_hidden u rfl)

end Frames

section Answering

variable (descriptorList polls)

def answer (u : Device Line) : Interrupt Script → Device Line
  | .general script =>
    ((Line.controller descriptorList polls).handleGeneralInterrupt (u.meeting script)).2
  | .endpoint script =>
    ((Line.controller descriptorList polls).handleEndpointInterrupt (u.meeting script)).2

-- The interrupts that come at each moment of a call, as the state of the device has it.
def During : Type := Moment → Device Line → List (Interrupt Script)

def answering (during : During) (moment : Moment) : Action (Device Line) Unit :=
  Action.modify fun u => (during moment u).foldl (answer descriptorList polls) u

theorem answer_sameKeys (i : Interrupt Script) :
    u.hidState.SameKeys (answer descriptorList polls u i).hidState := by
  let c := Line.controller descriptorList polls
  cases i with
  | general script => exact c.interrupt_sameKeys u (.general (u.meeting script).hardware)
  | endpoint script => exact c.interrupt_sameKeys u (.endpoint (u.meeting script).hardware)

variable (hp : ∀ host, P host → P (host.receive report))

include hp

theorem hears_answer (i : Interrupt Script) (h : Hears report P u) :
    Hears report P (answer descriptorList polls u i) := by
  cases i with
  | general script => exact hears_handleGeneralInterrupt hp _ (h.of_outside rfl rfl)
  | endpoint script => exact hears_handleEndpointInterrupt _ (h.of_outside rfl rfl)

theorem hears_answering (during : During) (moment : Moment) :
    Keeps (Hears report P) (answering descriptorList polls during moment) :=
  fun _ h => foldl_keeps (fun _ i h => hears_answer descriptorList polls hp i h) h _

end Answering

section Silence

variable {o : List UInt8 × Host}

def Device.Undue (u : Device Line) : Prop := u.hidState.idleCount + 1 ≠ u.hidState.idleConfig

def Silent (u : Device Line) : Interrupt Script → Prop
  | .general script => script.read .UDINT &&& bit SOFI ≠ 0 → u.Undue
  | .endpoint _ => True

theorem countFrame_hidden (h : Hidden o u) (hu : u.Undue) :
    Hidden o ((Line.controller descriptorList polls).countFrame u).2 := by
  have hget (r : Register) : Keeps (fun v : Device Line => Hidden o v ∧ v.Undue)
      ((Line.controller descriptorList polls).get r) := fun _ hv => hv
  have hselect : Keeps (fun v : Device Line => Hidden o v ∧ v.Undue)
      ((Line.controller descriptorList polls).set .UENUM kKeyboardEndpoint) :=
    fun v hv => ⟨hidden_set_other (by decide) (by decide) _ v hv.1, hv.2⟩
  refine wp_state.mp ?_
  refine (hget .UDMFN).wp_bind ⟨h, hu⟩ (fun _ hv => hv.1) fun udmfn v hv => ?_
  rw [wp_bind, wp_gets, wp_ite]
  refine ⟨fun _ => ?_, fun _ => hv.1⟩
  refine hselect.wp_bind hv (fun _ hv => hv.1) fun _ v hv => ?_
  refine (hget .UEINTX).wp_bind hv (fun _ hv => hv.1) fun ueintx v hv => ?_
  rw [wp_ite]
  refine ⟨fun _ => ?_, fun _ => hv.1⟩
  rw [updateHid, wp_bind, wp_modify, wp_bind, wp_gets, if_neg hv.2]
  exact hv.1

theorem handleGeneralInterrupt_hidden (h : Hidden o u)
    (hu : u.hardware.read .UDINT &&& bit SOFI ≠ 0 → u.Undue) :
    Hidden o ((Line.controller descriptorList polls).handleGeneralInterrupt u).2 := by
  have hset {r : Register} (hr : r ≠ .UEDATX) (hx : r ≠ .UEINTX) (value : UInt8) :
      Keeps (fun v : Device Line => Hidden o v ∧ v.hidState = u.hidState)
        ((Line.controller descriptorList polls).set r value) :=
    fun v hv => ⟨hidden_set_other hr hx value v hv.1, hv.2⟩
  have hreset : Keeps (fun v : Device Line => Hidden o v ∧ v.hidState = u.hidState)
      (Line.controller descriptorList polls).configureEndpoint0 :=
    Keeps.bind (fun _ hv => hv) fun _ => (hset (by decide) (by decide) _).bind fun _ =>
      (hset (by decide) (by decide) _).bind fun _ => (hset (by decide) (by decide) _).bind fun _ =>
        (hset (by decide) (by decide) _).bind fun _ => hset (by decide) (by decide) _
  have hframe (v : Device Line) (hv : Hidden o v ∧ v.hidState = u.hidState) :
      wp (if u.hardware.read .UDINT &&& bit SOFI ≠ 0 then
        (Line.controller descriptorList polls).countFrame else pure ())
        (fun _ => Hidden o) (Hidden o) v := by
    rw [wp_ite]
    refine ⟨fun hframe => wp_state.mpr (countFrame_hidden hv.1 ?_), fun _ => hv.1⟩
    rw [Device.Undue, hv.2]
    exact hu hframe
  refine wp_state.mp ?_
  rw [handleGeneralInterrupt, wp_bind]
  refine wp_of_some (line_get .UDINT u) ?_
  refine (hset (by decide) (by decide) 0).wp_bind ⟨h, rfl⟩ (fun _ hv => hv.1) fun _ v hv => ?_
  rw [wp_ite]
  refine ⟨fun _ => ?_, fun _ => hframe v hv⟩
  exact hreset.wp_bind hv (fun _ hv => hv.1) fun _ v hv => hframe v hv

variable (descriptorList polls)

theorem answer_silent {i : Interrupt Script} (hi : Silent u i) :
    (answer descriptorList polls u i).hardware.outside = u.hardware.outside := by
  cases i with
  | general script => exact handleGeneralInterrupt_hidden (u := u.meeting script) rfl hi
  | endpoint script => exact handleEndpointInterrupt_hidden (u.meeting script) rfl

theorem hears_silent {i : Interrupt Script} (hi : Silent u i) (h : Hears report P u) :
    Hears report P (answer descriptorList polls u i) :=
  h.of_outside (report_of_sameKeys (answer_sameKeys descriptorList polls i))
    (answer_silent descriptorList polls hi)

end Silence

section Selection

def Attends (careful : Prop) (u : Device Line) : Prop := careful → u.hardware.selected

variable {careful : Prop}

theorem attends_get (r : Register) :
    Keeps (Attends careful) ((Line.controller descriptorList polls).get r) := fun _ h => h

theorem attends_set {r : Register} (hr : r ≠ .UENUM) (value : UInt8) :
    Keeps (Attends careful) ((Line.controller descriptorList polls).set r value) := by
  intro u h hc
  rw [line_set]
  exact (Line.writing_selected r value _ hr).mpr (h hc)

theorem attends_select (u : Device Line) :
    Attends careful ((Line.controller descriptorList polls).set .UENUM kKeyboardEndpoint u).2 := by
  intro _
  rw [line_set, Device.onLine, Line.selected, Line.writing_script, Script.writing_uenum, if_pos rfl]

theorem attends_sendHidState :
    Keeps (Attends careful) (Line.controller descriptorList polls).sendHidState := by
  refine Keeps.bind (fun _ h => h) fun _ => (Keeps.gets _).bind fun _ => ?_
  exact Keeps.bind (.forM (fun _ => attends_set (by decide) _) _) fun _ => attends_set (by decide) _

theorem attends_countFrame :
    Keeps (Attends careful) (Line.controller descriptorList polls).countFrame := by
  have hhid (f : HidState → HidState) : Keeps (Attends careful) (updateHid f) := fun _ h => h
  refine (attends_get _).bind fun _ => (Keeps.gets _).bind fun _ => .ite ?_ (.pure ())
  refine Keeps.bind (fun u _ => attends_select u) fun _ => (attends_get _).bind fun _ => ?_
  exact .ite ((hhid _).bind fun _ => (Keeps.gets _).bind fun _ =>
    .ite attends_sendHidState (.pure ())) (.pure ())

theorem general_run (u : Device Line) (hreset : u.hardware.read .UDINT &&& bit EORSTI = 0) :
    (Line.controller descriptorList polls).handleGeneralInterrupt u =
      (if u.hardware.read .UDINT &&& bit SOFI ≠ 0 then
        (Line.controller descriptorList polls).countFrame else pure ())
        (u.onLine fun w => (w.reading .UDINT).writing .UDINT 0) := by
  rw [handleGeneralInterrupt, bind_of_some (line_get _ _), bind_of_some (line_set _ _ _),
    if_neg (not_not.mpr hreset)]
  rfl

theorem noted_selected (u : Device Line) :
    (u.onLine fun w => (w.reading .UDINT).writing .UDINT 0).hardware.selected ↔
      u.hardware.selected := Line.writing_selected .UDINT 0 _ (by decide)

def Interrupt.Undisturbing : Interrupt Script → Prop
  | .general script => script.read .UDINT &&& bit EORSTI = 0 ∧ script.uenum = kKeyboardEndpoint
  | .endpoint _ => False

theorem attends_answer {i : Interrupt Script} (hi : careful → i.Undisturbing) :
    Attends careful (answer descriptorList polls u i) := by
  intro hc
  cases i with
  | endpoint script => exact (hi hc).elim
  | general script =>
    obtain ⟨hreset, hselected⟩ := hi hc
    have hstart : Attends careful ((u.meeting script).onLine fun w =>
        (w.reading .UDINT).writing .UDINT 0) := fun _ => (noted_selected _).mpr hselected
    have hframe : Keeps (Attends careful) (if script.read .UDINT &&& bit SOFI ≠ 0 then
        (Line.controller descriptorList polls).countFrame else pure ()) :=
      .ite attends_countFrame (.pure ())
    rw [answer, general_run (u.meeting script) hreset]
    exact hframe _ hstart hc

def Discreet (u : Device Line) : Interrupt Script → Prop
  | .general script => script.read .UDINT &&& bit EORSTI = 0 ∧
      script.uenum = u.hardware.script.uenum ∧
      (script.read .UDINT &&& bit SOFI ≠ 0 → u.hardware.selected ∧ u.Undue)
  | .endpoint _ => False

theorem Discreet.silent {i : Interrupt Script} (h : Discreet u i) : Silent u i := by
  cases i with
  | general script => exact fun hframe => (h.2.2 hframe).2
  | endpoint script => trivial

variable (descriptorList polls)

theorem answer_selected {i : Interrupt Script} (hi : Discreet u i) :
    (answer descriptorList polls u i).hardware.selected ↔ u.hardware.selected := by
  cases i with
  | endpoint script => exact hi.elim
  | general script =>
    obtain ⟨hreset, hsame, hframe⟩ := hi
    have hmeets : (u.meeting script).hardware.selected ↔ u.hardware.selected := by
      rw [Line.selected, Line.selected, ← hsame]
      rfl
    by_cases hstarts : script.read .UDINT &&& bit SOFI ≠ 0
    · have hselected := (hframe hstarts).1
      have hundisturbing : Interrupt.Undisturbing (.general script) :=
        ⟨hreset, hsame.trans hselected⟩
      have hattends : Attends True (answer descriptorList polls u (.general script)) :=
        attends_answer fun _ => hundisturbing
      exact iff_of_true (hattends trivial) hselected
    · rw [answer, general_run (u.meeting script) hreset]
      have hnone : ¬ ((u.meeting script).hardware.read .UDINT &&& bit SOFI ≠ 0) := hstarts
      rw [if_neg hnone]
      exact (noted_selected _).trans hmeets

end Selection

section Conditions

variable (descriptorList polls)

-- No report comes between the two halves of a key, and nothing comes between the bytes of a report
-- that tears it.
def Whole (during : During) : Prop := ∀ u : Device Line,
  Obeys Silent u (path (answer descriptorList polls) u (during .holding u)) ∧
    Obeys Discreet u (path (answer descriptorList polls) u (during .sending u))

-- No interrupt turns the endpoint away from a report that is about to be sent.
def Undisturbing (during : During) : Prop :=
  ∀ u : Device Line, u.hardware.selected → ∀ i ∈ during .looking u, i.Undisturbing

variable {during : During} {careful : Prop}

theorem attends_looking (hduring : careful → Undisturbing during) :
    Keeps (Attends careful) (answering descriptorList polls during .looking) := by
  intro u h
  have hrun (interrupts : List (Interrupt Script))
      (hi : careful → ∀ i ∈ interrupts, i.Undisturbing) : ∀ u, Attends careful u →
        Attends careful (interrupts.foldl (answer descriptorList polls) u) := by
    induction interrupts with
    | nil => exact fun _ h => h
    | cons i rest ih =>
      refine fun u _ => ih (fun hc j hj => hi hc j (List.mem_cons_of_mem _ hj)) _ ?_
      exact attends_answer fun hc => hi hc i (List.mem_cons_self ..)
  exact hrun _ (fun hc => hduring hc u (h hc)) u h

theorem hears_holding (hwhole : Whole descriptorList polls during) :
    Keeps (Hears report P) (answering descriptorList polls during .holding) :=
  fun u h => foldl_of_obeys (fun _ _ hi h => hears_silent descriptorList polls hi h) h (hwhole u).1

end Conditions

end Threeboard.Usb
