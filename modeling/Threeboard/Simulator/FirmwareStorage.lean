import Threeboard.Layers.Ideal
import Threeboard.Simulator.BlobCalls
import Threeboard.Storage.Coupling

namespace Threeboard.Simulator

open Actions Actions.Action I2c Layers Mcu Storage

section Unattached

variable {codes : StatusCodes} {polls : ℕ} {t : Twi Bus} {values : Offset → UInt8}

theorem eeprom1_write_keeps (hcodes : Telling codes) (h : Remembers polls t values)
    (offset : UInt16) (data : UInt8) : ∃ u, Remembers polls u values ∧
      (driver codes Bus.wires .eeprom1 polls).writeByte offset data t = (some false, u) := by
  have hother : ¬ Bus.Own 0xA2 := by decide
  have hkept : (Bus.wires.start 0xA2 t.bus).2.Remembers values :=
    deliver_remembers (b := { t.bus with control := 0xA2 })
      ⟨h.bus.address, h.bus.operationAddress, h.bus.counter, h.bus.buffer⟩ hother _ _
  have hspec : wp ((driver codes Bus.wires .eeprom1 polls).writeByte offset data)
      (fun ok u => ok = false ∧ Remembers polls u values) (fun _ => False) t := by
    rw [I2c.I2cEeprom.writeByte, wp_bind, I2c.I2cEeprom.startAndAddress, wp_bind]
    refine wp_mono (start_spec hcodes.tellsStart kWriteBit ⟨rfl, rfl, h.patient⟩) ?_
      (fun _ hf => hf)
    rintro ok u ⟨rfl, hat⟩
    have hsla : codes.sla 0xA2 = codes.mtSla := if_pos (by decide)
    have hrefused : accepted (codes.mtSla false) = false := by simpa using hcodes.mtSla_refused
    rw [control_eeprom1] at hat ⊢
    rw [start_unacknowledged h.bus, hsla, hrefused]
    exact ⟨rfl, hat.patient, hat.bus ▸ hkept⟩
  rcases hrun : (driver codes Bus.wires .eeprom1 polls).writeByte offset data t with ⟨_ | ok, u⟩
  · exact (wp_none hspec hrun).elim
  · obtain ⟨rfl, hu⟩ := wp_some hspec hrun
    exact ⟨u, hu, rfl⟩

end Unattached

namespace Machine

variable {codes : StatusCodes} {polls : ℕ}

structure Carries (polls : ℕ) (m : Machine) (b : Bench) : Prop where
  internal : ∀ offset, m.internal offset = b.memory (.internal, offset)
  mirrors : Mirrors polls m b

def Internal (bytes : UInt16 → UInt8) (b : Bench) : Prop :=
  ∀ offset, b.memory (.internal, offset) = bytes offset

theorem carries_of_mirrors {α : Type} {x : Action Machine α} {y : Action Bench α}
    (h : Corres (Mirrors polls) x y) (hx : ∀ bytes, Keeps (fun m => m.internal = bytes) x)
    (hy : ∀ bytes, Keeps (Internal bytes) y) : Corres (Carries polls) x y := by
  intro m b hm
  obtain ⟨hvalue, hnext⟩ := h m b hm.mirrors
  refine ⟨hvalue, fun offset => ?_, hnext⟩
  rw [hx m.internal m rfl]
  exact (hy m.internal b (fun offset => (hm.internal offset).symm) offset).symm

theorem internal_read_carries (offset : UInt16) : Corres (Carries polls)
    (internalEeprom.readByte offset) (Bench.internalEeprom.readByte offset) :=
  (Corres.gets fun _ _ h => h.internal offset).bind fun _ => Corres.pure _

theorem internal_write_carries (offset : UInt16) (data : UInt8) : Corres (Carries polls)
    (internalEeprom.writeByte offset data) (Bench.internalEeprom.writeByte offset data) := by
  refine Corres.modify fun m b h => ?_
  have hinternal (other : UInt16) : Function.update m.internal offset (data - 1) other =
      (b.poke (.internal, offset) (data - 1)).memory (.internal, other) := by
    by_cases ho : other = offset
    · rw [ho, Function.update_self, Bench.poke_memory_self]
    · rw [Function.update_of_ne ho, Bench.poke_memory_of_ne _ (by simpa using ho)]
      exact h.internal other
  refine ⟨hinternal, fun id => hinternal _, ?_, h.mirrors.keypresses, h.mirrors.calm⟩
  have hother (o : Offset) : ((b.logWrite (.internal, offset)).poke (.internal, offset)
      (data - 1)).memory (.eeprom0, UInt16.ofNat o) = b.memory (.eeprom0, UInt16.ofNat o) :=
    Bench.poke_memory_of_ne _ (by simp) _
  simp only [hother]
  exact h.mirrors.eeprom0

theorem onTwi_internal {α : Type} (x : Action (Twi Bus) α) (bytes : UInt16 → UInt8) :
    Keeps (fun m => m.internal = bytes) (onTwi x) := fun _ h => h

theorem external_read_internal (e : I2c.I2cEeprom (Twi Bus)) (offset : UInt16)
    (bytes : UInt16 → UInt8) :
    Keeps (fun m => m.internal = bytes) ((externalEeprom e).readByte offset) := by
  refine (onTwi_internal _ bytes).bind fun data => ?_
  cases data with
  | none => exact Keeps.stop
  | some data => exact Keeps.pure data

theorem external_write_internal (e : I2c.I2cEeprom (Twi Bus)) (offset : UInt16) (data : UInt8)
    (bytes : UInt16 → UInt8) :
    Keeps (fun m => m.internal = bytes) ((externalEeprom e).writeByte offset data) :=
  (onTwi_internal _ bytes).bind fun _ => (Keeps.pure ()).ite Keeps.stop

theorem nextFate_internal (bytes : UInt16 → UInt8) : Keeps (Internal bytes) Bench.nextFate :=
  fun _ h => h

theorem chip_read_internal (offset : UInt16) (bytes : UInt16 → UInt8) :
    Keeps (Internal bytes) ((Bench.externalEeprom .eeprom0).readByte offset) := by
  refine (nextFate_internal bytes).bind fun fate => ?_
  cases fate with
  | succeed => exact (Keeps.gets _).bind fun _ => Keeps.pure _
  | fail residue => exact Keeps.stop

theorem poke_internal {bytes : UInt16 → UInt8} {b : Bench} (h : Internal bytes b) (offset : UInt16)
    (byte : UInt8) : Internal bytes (b.poke (.eeprom0, offset) byte) := by
  intro other
  rw [Bench.poke_memory_of_ne _ (by simp)]
  exact h other

theorem chip_write_internal (offset : UInt16) (data : UInt8) (bytes : UInt16 → UInt8) :
    Keeps (Internal bytes) ((Bench.externalEeprom .eeprom0).writeByte offset data) := by
  refine (nextFate_internal bytes).bind fun fate => ?_
  cases fate with
  | succeed => exact fun b h => poke_internal (b := b.logWrite _) h offset _
  | fail residue =>
    refine Keeps.bind (fun _ h => h) fun _ => ?_
    cases residue with
    | none => exact Keeps.stop
    | some byte => exact Keeps.bind (fun _ h => poke_internal h offset byte) fun _ => Keeps.stop

theorem sendKeypress_internal (key mod : UInt8) (bytes : UInt16 → UInt8) :
    Keeps (Internal bytes) (Bench.usbController.sendKeypress key mod) := by
  refine Keeps.bind (fun _ h => h) fun _ => (nextFate_internal bytes).bind fun fate => ?_
  cases fate with
  | succeed => exact Keeps.pure ()
  | fail residue => exact Keeps.stop

theorem couples (hcodes : Accepting codes) :
    Couples (Carries polls) (controller codes polls) Bench.controller where
  internalRead := internal_read_carries
  internalWrite := internal_write_carries
  externalRead offset h := by
    have hread : Corres (Mirrors polls) _ _ := eeprom0_read_mirrors hcodes ⟨offset.toNat, h⟩
    rw [UInt16.ofNat_toNat] at hread
    exact carries_of_mirrors hread (external_read_internal _ offset) (chip_read_internal offset)
  externalWrite offset data h := by
    have hwrite : Corres (Mirrors polls) _ _ := eeprom0_write_mirrors hcodes ⟨offset.toNat, h⟩ data
    rw [UInt16.ofNat_toNat] at hwrite
    exact carries_of_mirrors hwrite (external_write_internal _ offset data)
      (chip_write_internal offset data)
  sendKeypress key mod := carries_of_mirrors (sendKeypress_mirrors key mod) (fun _ _ h => h)
    (sendKeypress_internal key mod)

end Machine

end Threeboard.Simulator
