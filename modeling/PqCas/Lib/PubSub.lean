import Mathlib.Data.List.Basic

/-!
This module contains publish and subscribe without a memory: a subscriber gets the messages that are
published on its channel after it subscribed, and nothing else.
-/

namespace PubSub

variable {κ μ : Type} [DecidableEq κ]

def onChannel (channel : κ) (log : List (κ × μ)) : List μ :=
  log.filterMap (fun message => if message.1 = channel then some message.2 else none)

def delivered (log : List (κ × μ)) (n : Nat) (channel : κ) : List μ :=
  onChannel channel (log.drop n)

@[simp]
theorem onChannel_nil (channel : κ) : onChannel channel ([] : List (κ × μ)) = [] := rfl

@[simp]
theorem onChannel_append (channel : κ) (log log' : List (κ × μ))
    : onChannel channel (log ++ log') = onChannel channel log ++ onChannel channel log' := by
  apply List.filterMap_append

@[simp]
theorem onChannel_singleton (channel : κ) (message : μ)
    : onChannel channel [(channel, message)] = [message] := by
  simp [onChannel]

@[simp]
theorem mem_onChannel {channel : κ} {log : List (κ × μ)} {message : μ}
    : message ∈ onChannel channel log ↔ (channel, message) ∈ log := by
  unfold onChannel
  rw [List.mem_filterMap]
  constructor
  . rintro ⟨⟨channel', message'⟩, hmem, h⟩
    split at h
    . next hchannel =>
      cases h
      exact hchannel ▸ hmem
    . cases h
  . exact fun hmem => ⟨_, hmem, if_pos rfl⟩

theorem onChannel_eq_append_delivered (log : List (κ × μ)) (n : Nat) (channel : κ)
    : onChannel channel log = onChannel channel (log.take n) ++ delivered log n channel := by
  unfold delivered
  rw [← onChannel_append, List.take_append_drop]

end PubSub
