import Threeboard.Events.EventLoop
import Threeboard.Keys.Combos
import Threeboard.Storage.Bench
import Mathlib.Data.List.ReduceOption

namespace Threeboard.Events

open Keys Layers Mailbox Runs

variable {σ : Type} {d : Devices σ}

structure Delivering (t : EventLoop σ) : Prop where
  holds : Holds t.history t.eventBuffer.pending
  keyMask : t.keyMask = final KeyController.pollKeyState 0 t.samples
  posted : posts t.history = (polls t.samples).reduceOption

theorem polls_append (samples : List UInt8) (pinb : UInt8) :
    polls (samples ++ [pinb]) = polls samples ++
      [(KeyController.pollKeyState (final KeyController.pollKeyState 0 samples) pinb).1] :=
  trace_append _ _ _ _

theorem Delivering.pollKeyState {t : EventLoop σ} (h : Delivering t) (pinb : UInt8) :
    Delivering (t.pollKeyState pinb) := by
  have hmask : (KeyController.pollKeyState t.keyMask pinb).2 =
      final KeyController.pollKeyState 0 (t.samples ++ [pinb]) := by
    rw [final_append, h.keyMask]
    rfl
  have hpolls := polls_append t.samples pinb
  rw [← h.keyMask] at hpolls
  rcases hk : KeyController.pollKeyState t.keyMask pinb with ⟨_ | k, keyMask⟩
  · simp only [hk] at hmask hpolls
    simp only [EventLoop.pollKeyState, hk]
    exact ⟨h.holds, hmask, by simp [hpolls, List.reduceOption_append, h.posted]⟩
  · simp only [hk] at hmask hpolls
    simp only [EventLoop.pollKeyState, hk]
    exact ⟨.post k h.holds, hmask, by simp [hpolls, List.reduceOption_append, h.posted, posts]⟩

theorem Delivering.of_fields {t u : EventLoop σ} (h : Delivering t)
    (hbuffer : u.eventBuffer = t.eventBuffer) (hmask : u.keyMask = t.keyMask)
    (hsamples : u.samples = t.samples) (hhistory : u.history = t.history) : Delivering u := by
  refine ⟨?_, ?_, ?_⟩
  · rw [hhistory, hbuffer]
    exact h.holds
  · rw [hmask, hsamples]
    exact h.keyMask
  · rw [hhistory, hsamples]
    exact h.posted

theorem Delivering.timer3 {t : EventLoop σ} (h : Delivering t) (pinb : UInt8) :
    Delivering (t.handleTimer3Interrupt pinb) := by
  have hpoll := h.pollKeyState pinb
  rw [EventLoop.handleTimer3Interrupt]
  split <;> exact hpoll.of_fields rfl rfl rfl rfl

theorem Delivering.beginIteration {t : EventLoop σ} (h : Delivering t) :
    Delivering (t.beginIteration d) := by
  have hholds := h.holds
  rw [EventLoop.beginIteration]
  split
  · rename_i hfull
    have hfull' : t.eventBuffer.hasKeypress = true := hfull
    rw [EventBuffer.pending, if_pos hfull'] at hholds
    exact ⟨.fetch hholds, h.keyMask, by simpa [posts] using h.posted⟩
  · exact h.of_fields rfl rfl rfl rfl

theorem Delivering.endIteration {t : EventLoop σ} (h : Delivering t)
    (rest : Actions.Action (Board σ) Unit) : Delivering (t.endIteration rest) := by
  rw [EventLoop.endIteration]
  split <;> exact h.of_fields rfl rfl rfl rfl

theorem Delivering.step {t u : EventLoop σ} {input : Input} (h : Delivering t)
    (hs : Step d t input u) : Delivering u := by
  cases hs with
  | timer3 pinb => exact h.timer3 pinb
  | iterate _ => exact h.beginIteration
  | work => exact h.of_fields rfl rfl rfl rfl
  | finish rest _ => exact h.endIteration rest
  | wake _ => exact h.of_fields rfl rfl rfl rfl

structure Delivered (t : EventLoop σ) : Prop where
  posted : posts t.history = (polls t.samples).reduceOption
  inOrder : (fetches t.history ++ t.eventBuffer.pending.toList).Sublist (posts t.history)
  handledOnce : ∀ i k, t.history[i]? = some (.fetch k) →
    ∃ j, i = j + 1 ∧ t.history[j]? = some (.post k)
  lostOnlyIfOverwritten : ∀ i k, t.history[i]? = some (.post k) →
    t.history[i + 1]? = some (.fetch k) ∨ (∃ k', t.history[i + 1]? = some (.post k')) ∨
      i + 1 = t.history.length ∧ t.eventBuffer.pending = some k
  nothingLost : Spaced t.history →
    posts t.history = fetches t.history ++ t.eventBuffer.pending.toList

theorem Delivering.delivered {t : EventLoop σ} (h : Delivering t) : Delivered t where
  posted := h.posted
  inOrder := fetches_sublist h.holds
  handledOnce _ _ hi := fetch_after_post h.holds hi
  lostOnlyIfOverwritten _ _ hi := after_post h.holds hi
  nothingLost hs := posts_eq_fetches h.holds hs

-- The event in a fresh buffer is whatever its memory held.
theorem keypress_delivery (event : Keypress) (board : Board σ) (bootIndicator : BootIndicator)
    {steps : List (Input × EventLoop σ)}
    (hrun : Path (Step d) { eventBuffer := { event }, board, bootIndicator } steps) :
    Always Delivered steps := by
  have hstart : Delivering ({ eventBuffer := { event }, board, bootIndicator } : EventLoop σ) :=
    ⟨.empty, rfl, rfl⟩
  have hall := always_of_step (fun _ _ _ ht hs => ht.step hs) hrun hstart
  exact fun p hp => (hall p hp).delivered

def benchDevices : Devices Storage.Bench :=
  ⟨Storage.Bench.usbController, Storage.Bench.controller.methods⟩

def powerUp : EventLoop Storage.Bench :=
  { eventBuffer := { event := .xyz }
    board := .boot (.start Storage.erased fun _ => .succeed)
    bootIndicator := ⟨1, 13⟩ }

theorem keypress_delivery_of_x : Delivered
    (((powerUp.handleTimer3Interrupt 0b11111011).handleTimer3Interrupt 0b11111111).beginIteration
      benchDevices) := by
  have hrun : Path (Step benchDevices) powerUp
      [(.timer3 0b11111011, _), (.timer3 0b11111111, _), (.iterate, _)] :=
    ⟨.timer3 _ _, .timer3 _ _, .iterate _ rfl, trivial⟩
  exact keypress_delivery .xyz _ ⟨1, 13⟩ hrun (.iterate, _) (.tail _ (.tail _ (.head _)))

end Threeboard.Events
