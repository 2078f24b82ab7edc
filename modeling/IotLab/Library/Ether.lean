import Mathlib.Data.List.Induction
import Mathlib.Data.List.Nodup
import Mathlib.Data.List.Perm.Subperm
import Mathlib.Tactic.Common

/-!
# A shared medium

Everybody's messages are heard by anybody else, each of them once at most, at any later time and
in any order.  What one receiver has heard is then part of what the others have sent, copies of a
message counted.
-/

namespace IotLab.Library

/-- Positions of a list that do not repeat pick a part of it. -/
theorem subperm_filterMap_getElem? {β : Type*} (list : List β) {positions : List ℕ}
    (distinct : positions.Nodup) :
    (positions.filterMap fun position => list[position]?).Subperm list := by
  have whole : (List.range list.length).filterMap (fun position => list[position]?) = list := by
    induction list using List.reverseRecOn with
    | nil => rfl
    | append_singleton front last ih =>
        have before : (List.range front.length).filterMap (fun position =>
            (front ++ [last])[position]?) = front := by
          refine (List.filterMap_congr fun position member => ?_).trans ih
          exact List.getElem?_append_left (List.mem_range.1 member)
        rw [List.length_append, List.length_singleton, List.range_succ, List.filterMap_append,
          before, List.filterMap_cons, List.getElem?_concat_length, List.filterMap_nil]
  have inside : (positions.filter (· < list.length)).Subperm (List.range list.length) :=
    (distinct.filter _).subperm fun position member => by
      simpa using (List.mem_filter.1 member).2
  have same : (positions.filter (· < list.length)).filterMap (fun position => list[position]?) =
      positions.filterMap fun position => list[position]? := by
    rw [List.filterMap_filter]
    refine List.filterMap_congr fun position _ => ?_
    split
    · rfl
    · next beyond => exact (List.getElem?_eq_none (by simpa using beyond)).symm
  obtain ⟨ordered, perm, part⟩ := inside
  have picked := part.filterMap fun position => list[position]?
  rw [whole] at picked
  rw [← same]
  exact ⟨_, perm.filterMap _, picked⟩

/-- A list of pairs is part of another one if this holds for every key. -/
theorem subperm_of_keys {κ ν : Type*} [DecidableEq κ] {part whole : List (κ × ν)}
    (each : ∀ key, ((part.filter fun pair => pair.1 = key).map Prod.snd).Subperm
      ((whole.filter fun pair => pair.1 = key).map Prod.snd)) : part.Subperm whole := by
  classical
  have counted : ∀ (pairs : List (κ × ν)) (key : κ) (value : ν), pairs.count (key, value) =
      ((pairs.filter fun pair => pair.1 = key).map Prod.snd).count value := by
    intro pairs key value
    rw [List.count, List.count, List.countP_map, List.countP_filter]
    refine List.countP_congr fun pair _ => ?_
    simp [Prod.ext_iff, and_comm]
  refine List.subperm_ext_iff.2 fun pair _ => ?_
  rw [counted, counted]
  exact (each pair.1).countP_le _

theorem getElem?_append_some {β : Type*} {list : List β} {position : ℕ} {value : β}
    (there : list[position]? = some value) (more : List β) :
    (list ++ more)[position]? = some value := by
  rw [List.getElem?_append_left (List.getElem?_eq_some_iff.1 there).1, there]

/-- The messages with their senders, and who has heard the message at which position. -/
structure Ether (ι β : Type*) where
  sent : List (ι × β)
  heard : List (ℕ × ι)
  once : heard.Nodup
  known : ∀ hearing ∈ heard, ∃ sending, sent[hearing.1]? = some sending ∧
    sending.1 ≠ hearing.2

namespace Ether

variable {ι β : Type*}

/-- Nothing has been sent. -/
def silent : Ether ι β := ⟨[], [], List.nodup_nil, List.forall_mem_nil _⟩

/-- Somebody sends messages. -/
def send (ether : Ether ι β) (source : ι) (messages : List β) : Ether ι β where
  sent := ether.sent ++ messages.map fun message => (source, message)
  heard := ether.heard
  once := ether.once
  known hearing member := by
    obtain ⟨sending, there, other⟩ := ether.known hearing member
    exact ⟨sending, getElem?_append_some there _, other⟩

@[simp] theorem sent_send (ether : Ether ι β) (source : ι) (messages : List β) :
    (ether.send source messages).sent =
      ether.sent ++ messages.map fun message => (source, message) := rfl

/-- Somebody hears a message of another one for the first time. -/
def hear (ether : Ether ι β) (position : ℕ) (receiver : ι) (sending : ι × β)
    (there : ether.sent[position]? = some sending) (other : sending.1 ≠ receiver)
    (fresh : (position, receiver) ∉ ether.heard) : Ether ι β where
  sent := ether.sent
  heard := ether.heard ++ [(position, receiver)]
  once := by
    rw [List.nodup_append_comm]
    exact List.nodup_cons.2 ⟨fresh, ether.once⟩
  known hearing member := by
    rcases List.mem_append.1 member with before | last
    · exact ether.known hearing before
    · rw [List.mem_singleton] at last
      exact ⟨sending, last ▸ there, last ▸ other⟩

variable [DecidableEq ι]

/-- The messages that a receiver has heard, with their senders. -/
def heardBy (ether : Ether ι β) (receiver : ι) : List (ι × β) :=
  (ether.heard.filter fun hearing => hearing.2 = receiver).filterMap fun hearing =>
    ether.sent[hearing.1]?

theorem heardBy_send (ether : Ether ι β) (source : ι) (messages : List β) (receiver : ι) :
    (ether.send source messages).heardBy receiver = ether.heardBy receiver := by
  refine List.filterMap_congr fun hearing member => ?_
  obtain ⟨sending, there, _⟩ := ether.known hearing (List.mem_of_mem_filter member)
  rw [send, there]
  exact getElem?_append_some there _

theorem heardBy_hear (ether : Ether ι β) {position : ℕ} {receiver : ι} {sending : ι × β}
    (there : ether.sent[position]? = some sending) (other : sending.1 ≠ receiver)
    (fresh : (position, receiver) ∉ ether.heard) (listener : ι) :
    (ether.hear position receiver sending there other fresh).heardBy listener =
      if receiver = listener then ether.heardBy listener ++ [sending]
      else ether.heardBy listener := by
  simp only [heardBy, hear, List.filter_append, List.filterMap_append]
  split
  · next same => simp [same, there]
  · next apart => simp [apart]

/-- What somebody has heard is part of what the others have sent. -/
theorem heardBy_subperm (ether : Ether ι β) (receiver : ι) :
    (ether.heardBy receiver).Subperm
      (ether.sent.filter fun sending => sending.1 ≠ receiver) := by
  have distinct :
      ((ether.heard.filter fun hearing => hearing.2 = receiver).map Prod.fst).Nodup := by
    refine (ether.once.filter _).map_on fun left inLeft right inRight same => ?_
    have leftReceiver := (List.mem_filter.1 inLeft).2
    have rightReceiver := (List.mem_filter.1 inRight).2
    simp only [decide_eq_true_eq] at leftReceiver rightReceiver
    exact Prod.ext same (leftReceiver.trans rightReceiver.symm)
  have part := subperm_filterMap_getElem? ether.sent distinct
  rw [List.filterMap_map] at part
  have others : (ether.heardBy receiver).filter (fun sending => sending.1 ≠ receiver) =
      ether.heardBy receiver := by
    refine List.filter_eq_self.2 fun sending member => ?_
    obtain ⟨hearing, inHeard, there⟩ := List.mem_filterMap.1 member
    obtain ⟨heard, same⟩ := List.mem_filter.1 inHeard
    obtain ⟨known, found, other⟩ := ether.known hearing heard
    rw [there, Option.some.injEq] at found
    simp only [decide_eq_true_eq] at same
    simpa [found, same] using other
  rw [← others]
  exact part.filter _

end Ether

end IotLab.Library
