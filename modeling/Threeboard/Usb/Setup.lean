import Threeboard.Library.Polling
import Threeboard.Native.Native

namespace Threeboard.Usb

open Actions Actions.Action Mcu

def UVREGE : UInt8 := 0
def OTGPADE : UInt8 := 4
def FRZCLK : UInt8 := 5
def USBE : UInt8 := 7
def DETACH : UInt8 := 0
def PLOCK : UInt8 := 0
def PLLE : UInt8 := 1
def PINDIV : UInt8 := 4
def SOFE : UInt8 := 2
def EORSTE : UInt8 := 3

inductive SetupRegister where
  | UHWCON
  | USBCON
  | PLLCSR
  | UDIEN
  | UDCON
  deriving DecidableEq, Repr

-- The PLL may be seen locked by any of the reads of PLLCSR.
structure UsbModule where
  pllcsr : ℕ → UInt8
  reads : ℕ := 0
  udcon : UInt8 := bit DETACH
  writes : List (SetupRegister × UInt8) := []
  logged : List String := []

namespace UsbModule

def set (r : SetupRegister) (value : UInt8) : Action UsbModule Unit := Action.modify fun u =>
  { u with
    udcon := if r = .UDCON then value else u.udcon
    writes := u.writes ++ [(r, value)] }

def getPLLCSR : Action UsbModule UInt8 :=
  fun u => (some (u.pllcsr u.reads), { u with reads := u.reads + 1 })

def getUDCON : Action UsbModule UInt8 := Action.gets udcon

def log (line : String) : Action UsbModule Unit :=
  Action.modify fun u => { u with logged := u.logged ++ [line] }

def attached (u : UsbModule) : Prop := u.udcon &&& bit DETACH = 0

def locked (u : UsbModule) (n : ℕ) : Prop := u.pllcsr n &&& bit PLOCK ≠ 0

end UsbModule

def waitRound {σ : Type} (cond : Action σ Bool) (max iterations : UInt16) :
    Action σ (UInt16 ⊕ Bool) := do
  if ← cond then
    if iterations + 1 = max then pure (.inr false) else pure (.inl (iterations + 1))
  else pure (.inr true)

def waitOrReturn {σ : Type} (cond : Action σ Bool) (max : UInt16) : Action σ Bool :=
  Action.loop (waitRound cond max) UInt16.size 0

open UsbModule

def pllUnlocked : Action UsbModule Bool := do
  let pllcsr ← getPLLCSR
  pure (pllcsr &&& bit PLOCK = 0)

def setup : Action UsbModule Bool := do
  set .UHWCON (bit UVREGE)
  set .USBCON (bit USBE ||| bit FRZCLK)
  set .PLLCSR (bit PINDIV ||| bit PLLE)
  if ← waitOrReturn pllUnlocked 0xFFFF then do
    set .USBCON (bit USBE ||| bit OTGPADE)
    set .UDIEN (bit EORSTE ||| bit SOFE)
    let udcon ← getUDCON
    set .UDCON (udcon &&& ~~~bit DETACH)
    pure true
  else do
    log "Failed to lock PLL during USB setup"
    pure false

namespace UsbModule

variable {u : UsbModule}

def reading (n : ℕ) (u : UsbModule) : UsbModule := { u with reads := u.reads + n }

theorem pllUnlocked_run (n : ℕ) : pllUnlocked (u.reading n) =
    (some (u.pllcsr (u.reads + n) &&& bit PLOCK = 0 : Bool), u.reading (n + 1)) := rfl

theorem unlocked_run {n : ℕ} (h : ¬ u.locked (u.reads + n)) :
    pllUnlocked (u.reading n) = (some true, u.reading (n + 1)) :=
  (pllUnlocked_run n).trans (by rw [decide_eq_true (not_not.mp h)])

theorem locked_run {n : ℕ} (h : u.locked (u.reads + n)) :
    pllUnlocked (u.reading n) = (some false, u.reading (n + 1)) :=
  (pllUnlocked_run n).trans (by rw [decide_eq_false h])

theorem iterations_succ {n : ℕ} (h : n + 1 < UInt16.size) :
    UInt16.ofNat n + 1 = UInt16.ofNat (n + 1) ∧ (UInt16.ofNat (n + 1)).toNat = n + 1 :=
  ⟨(UInt16.ofNat_add n 1).symm, UInt16.toNat_ofNat_of_lt h⟩

theorem waitRound_goes {n : ℕ} (h : ¬ u.locked (u.reads + n)) (hn : n + 1 < 0xFFFF) :
    waitRound pllUnlocked 0xFFFF (.ofNat n) (u.reading n) =
      (some (.inl (.ofNat (n + 1))), u.reading (n + 1)) := by
  obtain ⟨hsucc, hnat⟩ := @iterations_succ n (by simp only [UInt16.size]; omega)
  have hmax : UInt16.ofNat (n + 1) ≠ 0xFFFF := by
    intro heq
    rw [heq] at hnat
    exact absurd hnat (by simpa using (Nat.ne_of_lt hn).symm)
  rw [waitRound, bind_of_some (unlocked_run h), if_pos rfl, hsucc, if_neg hmax]
  rfl

theorem waitOrReturn_locked {n : ℕ} (hn : n < 0xFFFF) (h : u.locked (u.reads + n))
    (hbefore : ∀ m < n, ¬ u.locked (u.reads + m)) :
    waitOrReturn pllUnlocked 0xFFFF u = (some true, u.reading (n + 1)) := by
  have hgoes : ∀ m < n, waitRound pllUnlocked 0xFFFF (.ofNat m) (u.reading m) =
      (some (.inl (.ofNat (m + 1))), u.reading (m + 1)) :=
    fun m hm => waitRound_goes (hbefore m hm) (by omega)
  have hdone : waitRound pllUnlocked 0xFFFF (.ofNat n) (u.reading n) =
      (some (.inr true), u.reading (n + 1)) := by
    rw [waitRound, bind_of_some (locked_run h), if_neg (by simp)]
    rfl
  have hrounds : n < UInt16.size := by
    simp only [UInt16.size]
    omega
  exact loop_ends (b := fun m => UInt16.ofNat m) (s := fun m => u.reading m) hgoes hdone hrounds

theorem waitOrReturn_unlocked (h : ∀ m < 0xFFFF, ¬ u.locked (u.reads + m)) :
    waitOrReturn pllUnlocked 0xFFFF u = (some false, u.reading 0xFFFF) := by
  have hgoes : ∀ m < 0xFFFE, waitRound pllUnlocked 0xFFFF (.ofNat m) (u.reading m) =
      (some (.inl (.ofNat (m + 1))), u.reading (m + 1)) :=
    fun m hm => waitRound_goes (h m (by omega)) (by omega)
  have hdone : waitRound pllUnlocked 0xFFFF (.ofNat 0xFFFE) (u.reading 0xFFFE) =
      (some (.inr false), u.reading 0xFFFF) := by
    rw [waitRound, bind_of_some (unlocked_run (h 0xFFFE (by omega)))]
    rfl
  have hrounds : 0xFFFE < UInt16.size := by decide
  exact loop_ends (b := fun m => UInt16.ofNat m) (s := fun m => u.reading m) hgoes hdone hrounds

def lockWrites : List (SetupRegister × UInt8) :=
  [(.UHWCON, bit UVREGE), (.USBCON, bit USBE ||| bit FRZCLK), (.PLLCSR, bit PINDIV ||| bit PLLE)]

def attachWrites (udcon : UInt8) : List (SetupRegister × UInt8) :=
  [(.USBCON, bit USBE ||| bit OTGPADE), (.UDIEN, bit EORSTE ||| bit SOFE),
    (.UDCON, udcon &&& ~~~bit DETACH)]

def attach (n : ℕ) (u : UsbModule) : UsbModule :=
  { u with
    reads := u.reads + n
    udcon := u.udcon &&& ~~~bit DETACH
    writes := u.writes ++ lockWrites ++ attachWrites u.udcon }

def giveUp (u : UsbModule) : UsbModule :=
  { u with
    reads := u.reads + 0xFFFF
    writes := u.writes ++ lockWrites
    logged := u.logged ++ ["Failed to lock PLL during USB setup"] }

theorem attached_attach (n : ℕ) (u : UsbModule) : (u.attach n).attached := by
  have hmask : ~~~bit DETACH &&& bit DETACH = 0 := by decide
  rw [attached, attach, UInt8.and_assoc, hmask, UInt8.and_zero]

def locking (u : UsbModule) : UsbModule := { u with writes := u.writes ++ lockWrites }

theorem set_run {r : SetupRegister} (value : UInt8) (h : r ≠ .UDCON) (u : UsbModule) :
    set r value u = (some (), { u with writes := u.writes ++ [(r, value)] }) := by
  simp [set, h]

theorem setup_run {ok : Bool} {n : ℕ}
    (h : waitOrReturn pllUnlocked 0xFFFF u.locking = (some ok, u.locking.reading n)) :
    setup u = (some ok, if ok then u.attach n else
      { u.locking.reading n with logged := u.logged ++ ["Failed to lock PLL during USB setup"] }) := by
  rw [setup, bind_of_some (set_run _ (by decide) _), bind_of_some (set_run _ (by decide) _),
    bind_of_some (set_run _ (by decide) _)]
  simp only [List.append_assoc, List.cons_append, List.nil_append]
  rw [← lockWrites, ← locking, bind_of_some h]
  cases ok with
  | true =>
    simp [-bind_pure_comp, set, getUDCON, bind_run, reading, locking, attach, attachWrites]
  | false => rfl

theorem setup_locked {n : ℕ} (hn : n < 0xFFFF) (h : u.locked (u.reads + n))
    (hbefore : ∀ m < n, ¬ u.locked (u.reads + m)) : setup u = (some true, u.attach (n + 1)) :=
  setup_run (waitOrReturn_locked hn h hbefore)

theorem setup_unlocked (h : ∀ m < 0xFFFF, ¬ u.locked (u.reads + m)) :
    setup u = (some false, u.giveUp) :=
  setup_run (waitOrReturn_unlocked h)

end UsbModule

end Threeboard.Usb
