import Threeboard.Usb.Hearing

namespace Threeboard.Usb

open Actions Actions.Action Mcu UsbControllerImpl Runs

variable {descriptorList : List DescriptorContainer} {polls : ℕ}

variable {report : List UInt8} {P Q : Host → Prop} {u v : Device Line} {careful : Prop}
  {during : During}

section Writing

structure Writing (careful : Prop) (report : List UInt8) (P : Host → Prop) (written : List UInt8)
    (u : Device Line) : Prop where
  report : u.hidState.report = report
  bank : u.hardware.bank = if u.hardware.selected then written else []
  host : P u.hardware.host
  attends : Attends careful u

variable {written : List UInt8}

theorem Writing.of_outside (h : Writing careful report P written u)
    (hreport : v.hidState.report = u.hidState.report)
    (hout : v.hardware.outside = u.hardware.outside)
    (hselected : v.hardware.selected ↔ u.hardware.selected) : Writing careful report P written v := by
  obtain ⟨hbank, hhost⟩ := Line.of_outside hout
  refine ⟨hreport.trans h.report, ?_, hhost ▸ h.host, fun hc => hselected.mpr (h.attends hc)⟩
  rw [hbank, h.bank]
  simp only [hselected]

theorem writing_answering (hwhole : Whole descriptorList polls during) :
    Keeps (Writing careful report P written) (answering descriptorList polls during .sending) := by
  refine fun u h => foldl_of_obeys (fun v i hi hv => ?_) h (hwhole u).2
  exact hv.of_outside (report_of_sameKeys (answer_sameKeys descriptorList polls i))
    (answer_silent descriptorList polls hi.silent) (answer_selected descriptorList polls hi)

theorem Writing.byte (h : Writing careful report P written u) (value : UInt8) :
    Writing careful report P (written ++ [value]) (u.onLine (Line.writing .UEDATX value)) := by
  have hsame : (u.onLine (Line.writing .UEDATX value)).hardware.selected ↔ u.hardware.selected :=
    Line.writing_selected .UEDATX value _ (by decide)
  by_cases hs : u.hardware.selected
  · obtain ⟨hbank, hhost⟩ := Line.of_outside (Line.writing_byte value u.hardware hs)
    refine ⟨h.report, ?_, ?_, fun hc => hsame.mpr (h.attends hc)⟩
    · have hwritten := h.bank
      rw [if_pos hs] at hwritten
      rw [if_pos (hsame.mpr hs), ← hwritten]
      exact hbank
    · exact (congrArg P hhost).mpr h.host
  · obtain ⟨hbank, hhost⟩ :=
      Line.of_outside (Line.writing_unselected .UEDATX value u.hardware hs)
    refine ⟨h.report, ?_, ?_, fun hc => hsame.mpr (h.attends hc)⟩
    · have hnone := h.bank
      rw [if_neg hs] at hnone
      rw [if_neg fun hf => hs (hsame.mp hf), ← hnone]
      exact hbank
    · exact (congrArg P hhost).mpr h.host

theorem byte_of_report {hid hid' : HidState} (h : hid.report = hid'.report)
    {byte : HidState → UInt8} (hmem : byte ∈ HidState.bytes) : byte hid = byte hid' := by
  rw [hid.report_eq_bytes, hid'.report_eq_bytes] at h
  exact List.map_inj_left.mp h byte hmem

variable (hwhole : Whole descriptorList polls during)

include hwhole

theorem putByte_writes {hid : HidState} {byte : HidState → UInt8} (hmem : byte ∈ HidState.bytes)
    (h : Writing careful hid.report P written u) :
    wp ((Line.controller descriptorList polls).putByte (answering descriptorList polls during) byte)
      (fun _ => Writing careful hid.report P (written ++ [byte hid])) (fun _ => False) u := by
  let v := (during .sending u).foldl (answer descriptorList polls) u
  have hv : Writing careful hid.report P written v := writing_answering hwhole u h
  have hrun : (Line.controller descriptorList polls).putByte (answering descriptorList polls during)
      byte u = (some (), v.onLine (Line.writing .UEDATX (byte v.hidState))) := rfl
  refine wp_of_some hrun ?_
  rw [byte_of_report hv.report hmem]
  exact hv.byte _

theorem putBytes_write {hid : HidState} {bytes : List (HidState → UInt8)}
    (hmem : ∀ byte ∈ bytes, byte ∈ HidState.bytes)
    (h : Writing careful hid.report P written u) :
    wp (forM bytes
        ((Line.controller descriptorList polls).putByte (answering descriptorList polls during)))
      (fun _ => Writing careful hid.report P (written ++ bytes.map (· hid))) (fun _ => False) u := by
  induction bytes generalizing written u with
  | nil =>
    rw [List.map_nil, List.append_nil]
    exact h
  | cons byte rest ih =>
    rw [List.forM_cons, wp_bind]
    refine wp_mono (putByte_writes hwhole (hmem byte List.mem_cons_self) h) (fun _ v hv => ?_)
      fun _ hf => hf
    have hrest := ih (fun other hother => hmem other (List.mem_cons_of_mem _ hother)) hv
    rwa [List.append_assoc] at hrest

end Writing

section Calls

def Poised (careful : Prop) (report : List UInt8) (P : Host → Prop) (u : Device Line) : Prop :=
  Hears report P u ∧ Attends careful u

theorem poised_get (r : Register) :
    Keeps (Poised careful report P) ((Line.controller descriptorList polls).get r) :=
  fun u h => ⟨hears_get r u h.1, attends_get r u h.2⟩

theorem poised_set {r : Register} (hr : r ≠ .UEDATX) (hx : r ≠ .UEINTX) (hn : r ≠ .UENUM)
    (value : UInt8) :
    Keeps (Poised careful report P) ((Line.controller descriptorList polls).set r value) :=
  fun u h => ⟨hears_set hr hx value u h.1, attends_set hn value u h.2⟩

theorem poised_enableInterrupts :
    Keeps (Poised careful report P) (Line.controller descriptorList polls).enableInterrupts := by
  simp only [enableInterrupts, Native.enableInterrupts, Native.enable, onHardware_bind]
  exact (poised_get .SREG).bind fun _ => poised_set (by decide) (by decide) (by decide) _

theorem hears_disableInterrupts :
    Keeps (Hears report P) (Line.controller descriptorList polls).disableInterrupts := by
  simp only [disableInterrupts, Native.disableInterrupts, Native.disable, onHardware_bind]
  exact (hears_get .SREG).bind fun _ => hears_set (by decide) (by decide) _

def Reported (careful : Prop) (P Q : Host → Prop) (sent : Bool) (host : Host) : Prop :=
  P host ∧ (careful → sent = true → Q host)

theorem Poised.begins (h : Poised careful report P u) : Writing careful report P [] u :=
  ⟨h.1.report, h.1.bank.trans (ite_self _).symm, h.1.host, h.2⟩

variable (hp : ∀ host, P host → P (host.receive report))

include hp

theorem Writing.handed (hq : ∀ host, P host → Q (host.receive report))
    (h : Writing careful report P report u) :
    Hears report (Reported careful P Q true) (u.onLine (Line.writing .UEINTX doneFlags)) := by
  by_cases hs : u.hardware.selected
  · obtain ⟨hbank, hhost⟩ := Line.of_outside (Line.writing_done u.hardware hs)
    have hwritten := h.bank
    rw [if_pos hs] at hwritten
    rw [hwritten] at hhost
    refine ⟨h.report, hbank, (congrArg (Reported careful P Q true) hhost).mpr ?_⟩
    exact ⟨hp _ h.host, fun _ _ => hq _ h.host⟩
  · obtain ⟨hbank, hhost⟩ :=
      Line.of_outside (Line.writing_unselected .UEINTX doneFlags u.hardware hs)
    have hnone := h.bank
    rw [if_neg hs] at hnone
    refine ⟨h.report, hbank.trans hnone, (congrArg (Reported careful P Q true) hhost).mpr ?_⟩
    exact ⟨h.host, fun hc => absurd (h.attends hc) hs⟩

theorem sendHidStateAmid_reported (hwhole : Whole descriptorList polls during)
    (hq : ∀ host, P host → Q (host.receive report)) (h : Poised careful report P u) :
    wp ((Line.controller descriptorList polls).sendHidStateAmid
        (answering descriptorList polls during))
      (fun _ => Hears report (Reported careful P Q true)) (fun _ => False) u := by
  obtain ⟨hears, hattends⟩ := h
  obtain rfl := hears.report
  have hbegins : Writing careful u.hidState.report P [] u := Poised.begins ⟨hears, hattends⟩
  have hfirst := writing_answering hwhole u hbegins
  rw [sendHidStateAmid, wp_bind]
  refine wp_of_some (t := (during .sending u).foldl (answer descriptorList polls) u) rfl ?_
  rw [updateHid, wp_bind, wp_modify, wp_bind]
  let v := (during .sending u).foldl (answer descriptorList polls) u
  have hcounted : Writing careful u.hidState.report P [] { v with hidState := v.hidState.counted } :=
    hfirst.of_outside (counted_report v.hidState) rfl .rfl
  refine wp_mono (putBytes_write hwhole (fun _ hmem => hmem) hcounted) (fun _ v hv => ?_)
    fun _ hf => hf
  rw [List.nil_append, ← HidState.report_eq_bytes] at hv
  have hlast := writing_answering hwhole v hv
  rw [wp_bind]
  refine wp_of_some (t := (during .sending v).foldl (answer descriptorList polls) v) rfl ?_
  exact wp_of_some (line_set .UEINTX doneFlags _) (hlast.handed hp hq)

def Readied (careful : Prop) (report : List UInt8) (P : Host → Prop) (ready : Option UInt8)
    (u : Device Line) : Prop :=
  Hears report P u ∧ (ready.isSome = true → Attends careful u)

theorem checkFramesAmid_readied (initialFrameNum intrState : UInt8) (h : Hears report P u) :
    wp ((Line.controller descriptorList polls).checkFramesAmid
        (answering descriptorList polls during) initialFrameNum intrState)
      (fun r v => r.elim (fun _ => Hears report P v) fun ready => Readied careful report P ready v)
      (Hears report P) u := by
  have hwaiting : Keeps (Hears report P) (answering descriptorList polls during .waiting) :=
    hears_answering descriptorList polls hp during .waiting
  have hgivesUp {v : Device Line} (hv : Hears report P v) : Readied careful report P none v :=
    ⟨hv, fun hsome => by cases hsome⟩
  rw [checkFramesAmid]
  refine hwaiting.wp_bind h (fun _ ht => ht) fun _ v hv => ?_
  refine (hears_set (by decide) (by decide) _).wp_bind hv (fun _ ht => ht) fun _ v hv => ?_
  refine hwaiting.wp_bind hv (fun _ ht => ht) fun _ v hv => ?_
  rw [wp_bind, wp_gets, wp_ite]
  refine ⟨fun _ => hgivesUp hv, fun _ => ?_⟩
  refine (hears_get .UDFNUML).wp_bind hv (fun _ ht => ht) fun udfnuml v hv => ?_
  refine hwaiting.wp_bind hv (fun _ ht => ht) fun _ v hv => ?_
  rw [wp_ite]
  refine ⟨fun _ => hgivesUp hv, fun _ => ?_⟩
  refine (hears_get .SREG).wp_bind hv (fun _ ht => ht) fun intrState v hv => ?_
  refine hwaiting.wp_bind hv (fun _ ht => ht) fun _ v hv => ?_
  exact hears_disableInterrupts.wp_bind hv (fun _ ht => ht) fun _ v hv => hv

variable (hduring : careful → Undisturbing during)

include hduring

theorem pollEndpointAmid_readied (initialFrameNum intrState : UInt8) (h : Hears report P u) :
    wp ((Line.controller descriptorList polls).pollEndpointAmid
        (answering descriptorList polls during) initialFrameNum intrState)
      (fun r v => r.elim (fun _ => Hears report P v) fun ready => Readied careful report P ready v)
      (Hears report P) u := by
  rw [pollEndpointAmid, wp_bind]
  refine wp_of_some (line_set _ _ _) ?_
  have hselected : Poised careful report P
      ((Line.controller descriptorList polls).set .UENUM kKeyboardEndpoint u).2 :=
    ⟨hears_set (by decide) (by decide) _ _ h, attends_select u⟩
  have hlooking : Keeps (Poised careful report P) (answering descriptorList polls during .looking) :=
    fun v hv => ⟨hears_answering descriptorList polls hp during .looking v hv.1,
      attends_looking descriptorList polls hduring v hv.2⟩
  refine poised_enableInterrupts.wp_bind hselected (fun _ ht => ht.1) fun _ v hv => ?_
  refine hlooking.wp_bind hv (fun _ ht => ht.1) fun _ v hv => ?_
  refine (poised_get .UEINTX).wp_bind hv (fun _ ht => ht.1) fun ueintx v hv => ?_
  rw [wp_ite]
  refine ⟨fun _ => ⟨hv.1, fun _ => hv.2⟩, fun _ => ?_⟩
  exact checkFramesAmid_readied hp initialFrameNum intrState hv.1

theorem loop_readied (initialFrameNum intrState : UInt8) (h : Hears report P u) :
    wp (loop ((Line.controller descriptorList polls).pollEndpointAmid
      (answering descriptorList polls during) initialFrameNum) polls intrState)
      (Readied careful report P) (Hears report P) u :=
  wp_loop (fun _ _ hs => pollEndpointAmid_readied hp hduring _ _ hs) (fun _ hs => hs) _ _ h

theorem sendStateAmid_reported (hwhole : Whole descriptorList polls during)
    (hq : ∀ host, P host → Q (host.receive report))
    (hagain : ∀ host, Q host → Q (host.receive report)) (h : Hears report P u) :
    wp ((Line.controller descriptorList polls).sendStateAmid (answering descriptorList polls during))
      (fun sent => Hears report (Reported careful P Q sent)) (Hears report P) u := by
  have hwaiting : Keeps (Hears report P) (answering descriptorList polls during .waiting) :=
    hears_answering descriptorList polls hp during .waiting
  have hreported : ∀ host, Reported careful P Q true host →
      Reported careful P Q true (host.receive report) := fun host hhost =>
    ⟨hp host hhost.1, fun hc hsent => hagain host (hhost.2 hc hsent)⟩
  rw [sendStateAmid]
  refine (hears_get .SREG).wp_bind h (fun _ ht => ht) fun intrState v hv => ?_
  refine hwaiting.wp_bind hv (fun _ ht => ht) fun _ v hv => ?_
  refine hears_disableInterrupts.wp_bind hv (fun _ ht => ht) fun _ v hv => ?_
  refine (hears_get .UDFNUML).wp_bind hv (fun _ ht => ht) fun initialFrameNum v hv => ?_
  rw [wp_bind]
  refine wp_mono (loop_readied hp hduring initialFrameNum intrState hv) (fun ready v hv => ?_)
    fun _ ht => ht
  cases ready with
  | none => exact hv.1.mono fun _ hhost => ⟨hhost, fun _ hsent => Bool.noConfusion hsent⟩
  | some intrState =>
    rw [finishSendingAmid, wp_bind]
    refine wp_mono (sendHidStateAmid_reported hp hwhole hq ⟨hv.1, hv.2 rfl⟩) (fun _ v hv => ?_)
      fun _ hf => hf.elim
    have hafter : Keeps (Hears report (Reported careful P Q true))
        (answering descriptorList polls during .waiting) :=
      hears_answering descriptorList polls hreported during .waiting
    have hset : Keeps (Hears report (Reported careful P Q true))
        ((Line.controller descriptorList polls).set .SREG intrState) :=
      hears_set (by decide) (by decide) _
    refine hafter.wp_bind hv (fun _ ht => ht.mono fun _ => And.left) fun _ v hv => ?_
    refine hset.wp_bind hv (fun _ ht => ht.mono fun _ => And.left) fun _ v hv => ?_
    exact hafter.wp_bind hv (fun _ ht => ht.mono fun _ => And.left) fun _ v hv => hv

end Calls

end Threeboard.Usb
