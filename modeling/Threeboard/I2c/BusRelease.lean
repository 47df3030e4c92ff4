import Threeboard.I2c.Driving

namespace Threeboard.I2c

open Actions Actions.Action Mcu

-- An interface that reports what it likes: a status code for every command, and to every look at
-- TWCR some value. The commands are what has been asked of the bus.
structure Line where
  statuses : ℕ → UInt8
  twcr : ℕ → UInt8
  twdr : ℕ → UInt8
  status : UInt8 := TW_NO_INFO
  commands : List UInt8 := []

namespace Line

def lookAtTWCR (l : Line) : Line := { l with twcr := fun n => l.twcr (n + 1) }

def setTWCR (command : UInt8) (l : Line) : Line := { l with
  commands := l.commands ++ [command]
  status := l.statuses 0
  statuses := fun n => l.statuses (n + 1) }

def native : Native Line where
  getRegister
    | .TWCR, l => (l.twcr 0, l.lookAtTWCR)
    | .TWSR, l => (l.status, l)
    | .TWDR, l => (l.twdr 0, { l with twdr := fun n => l.twdr (n + 1) })
    | _, l => (0, l)
  setRegister
    | .TWCR, command, l => l.setTWCR command
    | _, _, l => l

structure Responsive (l : Line) : Prop where
  interrupts : ∀ n, ∃ k, l.twcr (n + k) &&& bit TWINT ≠ 0
  stops : ∀ n, ∃ k, l.twcr (n + k) &&& bit TWSTO = 0

theorem Responsive.shift {l : Line} (h : l.Responsive) : l.lookAtTWCR.Responsive := by
  refine ⟨fun n => ?_, fun n => ?_⟩
  · obtain ⟨k, hk⟩ := h.interrupts (n + 1)
    exact ⟨k, by rwa [Nat.add_right_comm] at hk⟩
  · obtain ⟨k, hk⟩ := h.stops (n + 1)
    exact ⟨k, by rwa [Nat.add_right_comm] at hk⟩

structure Same (l t : Line) : Prop where
  statuses : t.statuses = l.statuses
  status : t.status = l.status
  commands : t.commands = l.commands
  responsive : t.Responsive

structure Issues (l t : Line) (issued : List UInt8) : Prop where
  commands : t.commands = l.commands ++ issued
  statuses : t.statuses = fun n => l.statuses (n + issued.length)
  responsive : t.Responsive

theorem Issues.trans {l t u : Line} {first rest : List UInt8} (h : l.Issues t first)
    (h' : t.Issues u rest) : l.Issues u (first ++ rest) where
  commands := by rw [h'.commands, h.commands, List.append_assoc]
  statuses := by
    funext n
    rw [h'.statuses, h.statuses, List.length_append]
    exact congrArg l.statuses (by omega)
  responsive := h'.responsive

theorem Responsive.setTWCR {l : Line} (h : l.Responsive) (command : UInt8) :
    (l.setTWCR command).Responsive := ⟨h.interrupts, h.stops⟩

theorem issues_of_same {l t : Line} {command : UInt8} (h : (l.setTWCR command).Same t) :
    l.Issues t [command] := ⟨h.commands, h.statuses, h.responsive⟩

end Line

theorem settles_poll {ask : Action Line Bool} (good : UInt8 → Bool)
    (hask : ∀ l, ask l = (some (good (l.twcr 0)), l.lookAtTWCR)) {k : ℕ} {l : Line}
    (hresponsive : l.Responsive) (h : good (l.twcr k) = true) :
    ∃ t, Settles (poll ask) l () t ∧ l.Same t := by
  induction k generalizing l with
  | zero =>
    have hrun := hask l
    rw [h] at hrun
    exact ⟨_, .poll_ready hrun, rfl, rfl, rfl, hresponsive.shift⟩
  | succ k ih =>
    have hrun := hask l
    cases hnow : good (l.twcr 0) with
    | true =>
      rw [hnow] at hrun
      exact ⟨_, .poll_ready hrun, rfl, rfl, rfl, hresponsive.shift⟩
    | false =>
      rw [hnow] at hrun
      obtain ⟨t, hsettles, hsame⟩ := ih hresponsive.shift h
      exact ⟨t, .poll_waits hrun hsettles, hsame.statuses, hsame.status, hsame.commands,
        hsame.responsive⟩

section Commands

variable {l : Line} (device : Device)

def lineDriver (polls : ℕ) : I2cEeprom Line := ⟨Line.native, device, polls⟩

theorem settles_interrupted (h : l.Responsive) :
    ∃ t, Settles (poll (lineDriver device 0).interrupted) l () t ∧ l.Same t := by
  obtain ⟨k, hk⟩ := h.interrupts 0
  rw [Nat.zero_add] at hk
  exact settles_poll (fun v => v &&& bit TWINT ≠ 0) (fun _ => rfl) h (decide_eq_true hk)

theorem settles_stopped (h : l.Responsive) :
    ∃ t, Settles (poll (lineDriver device 0).stopped) l () t ∧ l.Same t := by
  obtain ⟨k, hk⟩ := h.stops 0
  rw [Nat.zero_add] at hk
  exact settles_poll (fun v => v &&& bit TWSTO = 0) (fun _ => rfl) h (decide_eq_true hk)

theorem settles_command (h : l.Responsive) (command : UInt8) :
    ∃ t, Settles (fun polls => do
        Line.native.set .TWCR command
        poll (lineDriver device polls).interrupted polls) l () t ∧
      l.Issues t [command] ∧ t.status = l.statuses 0 := by
  have hset : ∀ _ : ℕ, Line.native.set .TWCR command l = (some (), l.setTWCR command) := fun _ => rfl
  obtain ⟨t, hsettles, hsame⟩ := settles_interrupted device (h.setTWCR command)
  exact ⟨t, (Settles.of_run hset).bind hsettles, Line.issues_of_same hsame, hsame.status⟩

theorem settles_stop (h : l.Responsive) :
    ∃ t, Settles (fun polls => (lineDriver device polls).stop) l () t ∧
      l.Issues t [stopCommand] := by
  have hset : ∀ _ : ℕ, Line.native.set .TWCR stopCommand l = (some (), l.setTWCR stopCommand) :=
    fun _ => rfl
  obtain ⟨t, hsettles, hsame⟩ := settles_stopped device (h.setTWCR stopCommand)
  exact ⟨t, (Settles.of_run hset).bind hsettles, Line.issues_of_same hsame⟩

end Commands

def meets : List (UInt8 → Bool) → (ℕ → UInt8) → Bool
  | [], _ => true
  | check :: checks, statuses => check (statuses 0) && meets checks fun n => statuses (n + 1)

theorem meets_append (checks checks' : List (UInt8 → Bool)) (statuses : ℕ → UInt8) :
    meets (checks ++ checks') statuses =
      (meets checks statuses && meets checks' fun n => statuses (n + checks.length)) := by
  induction checks generalizing statuses with
  | nil => simp [meets]
  | cons check rest ih =>
    simp only [List.cons_append, meets, ih, List.length_cons, Bool.and_assoc, Nat.add_assoc]

def isStop (command : UInt8) : Bool := command &&& bit TWSTO ≠ 0

structure Attempt (x : ℕ → Action Line Bool) (checks : List (UInt8 → Bool)) (l t : Line)
    (issued : List UInt8) : Prop where
  settles : Settles x l (meets checks l.statuses) t
  issues : l.Issues t issued
  some_issued : issued ≠ []
  none_stops : ∀ command ∈ issued, ¬ isStop command
  complete : meets checks l.statuses = true → issued.length = checks.length

def Attempts (x : ℕ → Action Line Bool) (checks : List (UInt8 → Bool)) : Prop :=
  ∀ l : Line, l.Responsive → ∃ t issued, Attempt x checks l t issued

theorem Attempts.andThen {x y : ℕ → Action Line Bool} {checks checks' : List (UInt8 → Bool)}
    (hx : Attempts x checks) (hy : Attempts y checks') :
    Attempts (fun polls => do if ¬ (← x polls) then pure false else y polls) (checks ++ checks') := by
  intro l hl
  obtain ⟨t, issued, ha⟩ := hx l hl
  cases hmeets : meets checks l.statuses with
  | false =>
    have hsettles := ha.settles
    have hall : meets (checks ++ checks') l.statuses = false := by rw [meets_append, hmeets]; rfl
    rw [hmeets] at hsettles
    refine ⟨t, issued, ?_, ha.issues, ha.some_issued, ha.none_stops, fun h => ?_⟩
    · rw [hall]
      exact hsettles.bind (.of_run fun _ => rfl)
    · rw [hall] at h
      cases h
  | true =>
    have hsettles := ha.settles
    obtain ⟨u, issued', hb⟩ := hy t ha.issues.responsive
    have hrest : meets checks' t.statuses = meets (checks ++ checks') l.statuses := by
      rw [meets_append, hmeets, ha.issues.statuses, ha.complete hmeets, Bool.true_and]
    have hsettles' := hb.settles
    rw [hmeets] at hsettles
    rw [hrest] at hsettles'
    refine ⟨u, issued ++ issued', hsettles.bind hsettles', ha.issues.trans hb.issues, ?_, ?_, ?_⟩
    · simp [ha.some_issued]
    · intro command hmem
      exact (List.mem_append.mp hmem).elim (ha.none_stops command) (hb.none_stops command)
    · intro h
      rw [List.length_append, List.length_append, ha.complete hmeets, hb.complete (hrest.trans h)]

section Driver

variable (device : Device)

theorem attempts_command (command : UInt8) (check : UInt8 → Bool) (hgo : ¬ isStop command) :
    Attempts (fun polls => do
      Line.native.set .TWCR command
      poll (lineDriver device polls).interrupted polls
      let statusBits ← (lineDriver device polls).getStatusBits
      pure (check statusBits)) [fun status => check (status &&& 0xF8)] := by
  intro l hl
  obtain ⟨t, hsettles, hissues, hstatus⟩ := settles_command device hl command
  have hcheck : Settles (fun polls => do
      let statusBits ← (lineDriver device polls).getStatusBits
      pure (check statusBits)) t (meets [fun status => check (status &&& 0xF8)] l.statuses) t := by
    refine .of_run fun polls => ?_
    rw [meets, meets, Bool.and_true, ← hstatus]
    rfl
  refine ⟨t, [command], ?_, hissues, by simp, by simpa using hgo, fun _ => rfl⟩
  have hall := hsettles.bind (f := fun polls _ => do
      let statusBits ← (lineDriver device polls).getStatusBits
      pure (check statusBits)) hcheck
  simpa only [bind_assoc] using hall

theorem writeByteAndAck_eq {σ : Type} (e : I2cEeprom σ) (data : UInt8) :
    e.writeByteAndAck data = (do
      e.native.set .TWDR data
      e.native.set .TWCR goCommand
      poll e.interrupted e.polls
      let statusBits ← e.getStatusBits
      pure (decide (statusBits = TW_MT_SLA_ACK ∨ statusBits = TW_MR_SLA_ACK))) := by
  simp only [I2cEeprom.writeByteAndAck, I2cEeprom.writeByteToBus, goCommand, bind_assoc]
  congr! 8 with _ _ _ statusBits
  split
  · rename_i h
    simp [h]
  · rename_i h
    rw [decide_eq_true (by tauto)]

theorem start_eq {σ : Type} (e : I2cEeprom σ) (operation : UInt8) :
    e.start operation = (do
      let started ← (do
        e.native.set .TWCR startCommand
        poll e.interrupted e.polls
        let statusBits ← e.getStatusBits
        pure (decide (statusBits = TW_START ∨ statusBits = TW_REP_START)))
      if ¬ started then pure false
      else e.writeByteAndAck (createControlByte e.device operation)) := by
  simp only [I2cEeprom.start, startCommand, bind_assoc, pure_bind]
  congr! 6 with _ _ statusBits
  simp only [decide_eq_true_eq, not_or, ne_eq]

theorem attempts_writeByteAndAck (data : UInt8) :
    Attempts (fun polls => (lineDriver device polls).writeByteAndAck data) [accepted] := by
  intro l hl
  have hload : ∀ _ : ℕ, Line.native.set .TWDR data l = (some (), l) := fun _ => rfl
  obtain ⟨t, issued, ha⟩ := attempts_command device goCommand
    (fun statusBits => decide (statusBits = TW_MT_SLA_ACK ∨ statusBits = TW_MR_SLA_ACK))
    (by decide) l hl
  refine ⟨t, issued, { ha with settles := ?_ }⟩
  simp only [writeByteAndAck_eq]
  exact (Settles.of_run hload).bind ha.settles

theorem attempts_start (operation : UInt8) :
    Attempts (fun polls => (lineDriver device polls).start operation) [startAccepted, accepted] := by
  simp only [start_eq]
  exact (attempts_command device startCommand
    (fun statusBits => decide (statusBits = TW_START ∨ statusBits = TW_REP_START))
    (by decide)).andThen (attempts_writeByteAndAck device (createControlByte device operation))

theorem attempts_readAddress (byteOffset : UInt16) :
    Attempts (fun polls => (lineDriver device polls).startAndAddress kReadBit byteOffset)
      [startAccepted, accepted, accepted, accepted, startAccepted, accepted] :=
  (attempts_start device kWriteBit).andThen ((attempts_writeByteAndAck device _).andThen
    ((attempts_writeByteAndAck device _).andThen (attempts_start device kReadBit)))

theorem attempt_assoc {σ : Type} (x y z : Action σ Bool) :
    (do if ¬ (← x) then pure false else do if ¬ (← y) then pure false else z) =
      (do if ¬ (← x) then pure false else y) >>= fun ok : Bool => if ¬ ok then pure false else z := by
  rw [bind_assoc]
  congr 1
  funext ok
  cases ok <;> rfl

theorem attempt_true {σ : Type} (x : Action σ Bool) :
    (do if ¬ (← x) then pure false else pure true) = x := by
  conv_rhs => rw [← bind_pure x]
  congr 1
  funext ok
  cases ok <;> rfl

theorem writeAddress_eq {σ : Type} (e : I2cEeprom σ) (byteOffset : UInt16) :
    e.startAndAddress kWriteBit byteOffset = (do
      if ¬ (← e.start kWriteBit) then pure false
      else do
        if ¬ (← e.writeByteAndAck (byteOffset >>> 8).toUInt8) then pure false
        else e.writeByteAndAck byteOffset.toUInt8) := by
  conv_rhs => rw [← attempt_true (e.writeByteAndAck byteOffset.toUInt8)]
  rfl

theorem attempts_writeAddress (byteOffset : UInt16) :
    Attempts (fun polls => (lineDriver device polls).startAndAddress kWriteBit byteOffset)
      [startAccepted, accepted, accepted, accepted] := by
  simp only [writeAddress_eq]
  exact (attempts_start device kWriteBit).andThen ((attempts_writeByteAndAck device _).andThen
    (attempts_writeByteAndAck device _))

def writeChecks : List (UInt8 → Bool) := [startAccepted, accepted, accepted, accepted, accepted]

theorem attempts_writing (byteOffset : UInt16) (data : UInt8) :
    Attempts (fun polls => do
      if ¬ (← (lineDriver device polls).startAndAddress kWriteBit byteOffset) then pure false
      else (lineDriver device polls).writeByteAndAck (data - 1)) writeChecks :=
  (attempts_writeAddress device byteOffset).andThen (attempts_writeByteAndAck device (data - 1))

end Driver

inductive Call where
  | readByte (byteOffset : UInt16)
  | writeByte (byteOffset : UInt16) (data : UInt8)
  deriving DecidableEq, Repr

def Call.run {σ : Type} (e : I2cEeprom σ) : Call → Action σ Bool
  | readByte byteOffset => do
    let data ← e.readByte byteOffset
    pure data.isSome
  | writeByte byteOffset data => e.writeByte byteOffset data

def EndsInStop (issued : List UInt8) : Prop := ∃ command, issued.getLast? = some command ∧ isStop command

def Releases (x : ℕ → Action Line Bool) (l : Line) (condition : Prop) : Prop :=
  ∃ ok t issued, Settles x l ok t ∧ l.Issues t issued ∧ (EndsInStop issued ↔ condition)

theorem endsInStop_concat (issued : List UInt8) : EndsInStop (issued ++ [stopCommand]) :=
  ⟨stopCommand, List.getLast?_concat, by decide⟩

theorem not_endsInStop {issued : List UInt8} (h : ∀ command ∈ issued, ¬ isStop command) :
    ¬ EndsInStop issued := by
  rintro ⟨command, hlast, hstop⟩
  exact h command (List.mem_of_getLast? hlast) hstop

section Calls

variable (device : Device) {l : Line}

theorem settles_readByteFromBus (h : l.Responsive) :
    ∃ data t, Settles (fun polls => (lineDriver device polls).readByteFromBus true) l data t ∧
      l.Issues t [goCommand] := by
  obtain ⟨t, hsettles, hissues, -⟩ := settles_command device h goCommand
  refine ⟨t.twdr 0, { t with twdr := fun n => t.twdr (n + 1) }, ?_, hissues.commands,
    hissues.statuses, hissues.responsive.interrupts, hissues.responsive.stops⟩
  have hget : Settles (fun polls => (lineDriver device polls).native.get .TWDR) t (t.twdr 0)
    { t with twdr := fun n => t.twdr (n + 1) } := .of_run fun _ => rfl
  have hall := hsettles.bind (f := fun polls _ => (lineDriver device polls).native.get .TWDR) hget
  have hread : ∀ polls, (lineDriver device polls).readByteFromBus true = (do
      Line.native.set .TWCR goCommand
      poll (lineDriver device polls).interrupted polls
      (lineDriver device polls).native.get .TWDR) := fun _ => rfl
  simpa only [hread, bind_assoc] using hall

theorem readByte_releases (byteOffset : UInt16) (h : l.Responsive) :
    Releases (fun polls => (Call.readByte byteOffset).run (lineDriver device polls)) l True := by
  obtain ⟨t, issued, ha⟩ := attempts_readAddress device byteOffset l h
  have hsettles := ha.settles
  cases hmeets : meets [startAccepted, accepted, accepted, accepted, startAccepted, accepted]
    l.statuses with
  | false =>
    rw [hmeets] at hsettles
    obtain ⟨u, hstop, hissues⟩ := settles_stop device ha.issues.responsive
    refine ⟨false, u, _, (hsettles.bind (hstop.bind (.of_run fun _ => rfl))).bind
      (.of_run fun _ => rfl), ha.issues.trans hissues, iff_true_intro (endsInStop_concat _)⟩
  | true =>
    rw [hmeets] at hsettles
    obtain ⟨data, u, hread, hissues⟩ := settles_readByteFromBus device ha.issues.responsive
    obtain ⟨v, hstop, hissues'⟩ := settles_stop device hissues.responsive
    refine ⟨true, v, _, (hsettles.bind (hread.bind (hstop.bind (.of_run fun _ => rfl)))).bind
      (.of_run fun _ => rfl), (ha.issues.trans hissues).trans hissues',
      iff_true_intro (endsInStop_concat _)⟩

theorem writeByte_eq {σ : Type} (e : I2cEeprom σ) (byteOffset : UInt16) (data : UInt8) :
    e.writeByte byteOffset data = (do
      if ¬ (← e.startAndAddress kWriteBit byteOffset) then pure false
      else e.writeByteAndAck (data - 1)) >>= fun ok : Bool =>
        if ¬ ok then pure false else (do e.stop; pure true) := by
  rw [← attempt_assoc]
  rfl

theorem writeByte_releases (byteOffset : UInt16) (data : UInt8) (h : l.Responsive) :
    Releases (fun polls => (Call.writeByte byteOffset data).run (lineDriver device polls)) l
      (meets writeChecks l.statuses = true) := by
  obtain ⟨t, issued, ha⟩ := attempts_writing device byteOffset data l h
  have hsettles := ha.settles
  simp only [Call.run, writeByte_eq]
  cases hmeets : meets writeChecks l.statuses with
  | false =>
    rw [hmeets] at hsettles
    refine ⟨false, t, issued, hsettles.bind (.of_run fun _ => rfl), ha.issues, ?_⟩
    simpa using not_endsInStop ha.none_stops
  | true =>
    rw [hmeets] at hsettles
    obtain ⟨u, hstop, hissues⟩ := settles_stop device ha.issues.responsive
    refine ⟨true, u, _, hsettles.bind (hstop.bind (.of_run fun _ => rfl)),
      ha.issues.trans hissues, ?_⟩
    simpa using endsInStop_concat issued

end Calls

def Call.unrefused (statuses : ℕ → UInt8) : Call → Prop
  | readByte _ => True
  | writeByte _ _ => meets writeChecks statuses = true

theorem bus_released_iff (device : Device) (call : Call) (l : Line) (h : l.Responsive) :
    ∃ ok t issued, Settles (fun polls => call.run (lineDriver device polls)) l ok t ∧
      l.Issues t issued ∧ (EndsInStop issued ↔ call.unrefused l.statuses) := by
  cases call with
  | readByte byteOffset => exact readByte_releases device byteOffset h
  | writeByte byteOffset data => exact writeByte_releases device byteOffset data h

def refusing : Line where
  statuses n := if n = 0 then TW_START else TW_MT_SLA_NACK
  twcr _ := bit TWINT
  twdr _ := 0

theorem refusing_responsive : refusing.Responsive :=
  ⟨fun _ => ⟨0, (by decide : bit TWINT &&& bit TWINT ≠ 0)⟩,
    fun _ => ⟨0, (by decide : bit TWINT &&& bit TWSTO = 0)⟩⟩

theorem bus_released_after_refused_read : ∃ ok t issued,
    Settles (fun polls => (Call.readByte 0).run (lineDriver .eeprom0 polls)) refusing ok t ∧
      refusing.Issues t issued ∧ EndsInStop issued := by
  obtain ⟨ok, t, issued, hsettles, hissues, hends⟩ :=
    bus_released_iff .eeprom0 (.readByte 0) refusing refusing_responsive
  exact ⟨ok, t, issued, hsettles, hissues, hends.mpr trivial⟩

theorem refused_write_keeps_bus :
    ((lineDriver .eeprom0 1).writeByte 0 0 refusing).1 = some false ∧
      ((lineDriver .eeprom0 1).writeByte 0 0 refusing).2.commands = [startCommand, goCommand] ∧
      ¬ EndsInStop [startCommand, goCommand] :=
  ⟨by decide +kernel, by decide +kernel, not_endsInStop (by decide +kernel)⟩

end Threeboard.I2c
