import RespClient.Proofs.PubSub.Server

/-!
# Servers that answer subscription commands

A server keeps the subscriptions of a connection under names of its own making. It
accepts a command and acknowledges each name with the number of subscriptions that
are left at that point, or it refuses the command with a single error line and
changes nothing. The client counts what it expects before it knows which of the two
will come.
-/

namespace RespClient

/-- The side of a server that subscription commands see, with what it holds for one connection. -/
class Broker (τ : Type) where
  Name : Type
  /-- The name that a target is taken for. -/
  named : Bytes → Name
  spelled : Name → Bytes
  total : τ → Nat
  change : AckKind → Name → τ → τ
  /-- What a command without targets is about. -/
  implied : AckKind → τ → List Name
  /-- The message may be sent while this is held. -/
  receives : τ → Notice → Prop
  total_change : ∀ {kind : AckKind} (name : Name) (held : τ), kind.isUnsubscribe = false →
    0 < total (change kind name held)
  isAnswer_of_receives : ∀ {held : τ} {notice : Notice}, receives held notice →
    notice.isAnswer = false
  total_of_receives : ∀ {held : τ} {notice : Notice}, receives held notice → 0 < total held

instance : Broker Subscriptions where
  Name := String
  named := Text.Lossy.text
  spelled := Bytes.ofText
  total := Subscriptions.total
  change := Subscriptions.change
  implied := Subscriptions.implied
  receives := Subscriptions.Receives
  total_change := by
    intro kind name held adding
    unfold Subscriptions.total
    cases kind with
    | subscribe =>
        exact Nat.add_pos_left (List.length_pos_of_mem List.mem_insert_self) _
    | psubscribe =>
        exact Nat.add_pos_right _ (List.length_pos_of_mem List.mem_insert_self)
    | unsubscribe => cases adding
    | punsubscribe => cases adding
  isAnswer_of_receives := Subscriptions.Receives.isAnswer_eq_false
  total_of_receives := Subscriptions.Receives.total_pos

/-- A command, and the error line that the server has for it unless it accepts it. -/
structure Order where
  call : SubscriptionCall
  refusal : Option Refusal := none

namespace Order

/-- How many acknowledgements the client counts for these commands when it sends them. -/
def counted (orders : List Order) : Nat :=
  SubscriptionCall.counted (orders.map Order.call)

theorem counted_cons (order : Order) (orders : List Order) :
    counted (order :: orders) = max order.call.targets.length 1 + counted orders := by
  simp [counted, SubscriptionCall.counted]

theorem counted_concat (orders : List Order) (order : Order) :
    counted (orders ++ [order]) = counted orders + max order.call.targets.length 1 := by
  rw [counted, List.map_append]
  exact SubscriptionCall.counted_append _ order.call

def AllAccepted (orders : List Order) : Prop :=
  ∀ order ∈ orders, order.refusal = none

def AllSendable (orders : List Order) : Prop :=
  ∀ order ∈ orders, order.call.Sendable

end Order

/-- The number of subscriptions that the latest acknowledgement tells, if there is one. -/
def latest (before : Nat) (acks : List Ack) : Nat :=
  (acks.getLast?.map Ack.count).getD before

theorem latest_append (before : Nat) (first second : List Ack) :
    latest before (first ++ second) = latest (latest before first) second := by
  rw [latest, List.getLast?_append]
  cases found : second.getLast? with
  | none => rw [latest, latest, found]; rfl
  | some ack => rw [latest, found]; rfl

/-- An acknowledgement that nothing is left. -/
def Ack.Leaves (ack : Ack) : Prop :=
  ack.kind.isUnsubscribe = true ∧ ack.count = 0

def Notice.Leaves (notice : Notice) : Prop :=
  ∃ ack, notice.ack? = some ack ∧ ack.Leaves

namespace Broker

variable {τ : Type} [Broker τ]

def targets (held : τ) (call : SubscriptionCall) : List (Name τ) :=
  if call.targets = [] then implied call.kind held else call.targets.map named

/-- Takes the names one by one. -/
def acknowledge (kind : AckKind) (held : τ) : List (Name τ) → List Notice × τ
  | [] => ([], held)
  | name :: names =>
      let changed := change kind name held
      let (notices, last) := acknowledge kind changed names
      (.ack kind (some (spelled name)) (total changed) :: notices, last)

/-- The acknowledgements of a command that is accepted, and what is held after it. -/
def answer (held : τ) (call : SubscriptionCall) : List Notice × τ :=
  match targets held call with
  | [] => ([.ack call.kind none (total held)], held)
  | names => acknowledge call.kind held names

def respond (held : τ) (order : Order) : List Notice × τ :=
  match order.refusal with
  | some cause => ([.refusal cause], held)
  | none => answer held order.call

def respondAll (held : τ) : List Order → List Notice × τ
  | [] => ([], held)
  | order :: orders =>
      let (notices, changed) := respond held order
      let (others, last) := respondAll changed orders
      (notices ++ others, last)

/-- The acknowledgements of these commands. -/
def acknowledged (held : τ) (orders : List Order) : List Ack :=
  acks (respondAll held orders).1

theorem respondAll_append (held : τ) (orders others : List Order) :
    respondAll held (orders ++ others) =
      ((respondAll held orders).1 ++ (respondAll (respondAll held orders).2 others).1,
        (respondAll (respondAll held orders).2 others).2) := by
  induction orders generalizing held with
  | nil => rfl
  | cons order orders ih => simp only [List.cons_append, respondAll, ih, List.append_assoc]

theorem respondAll_singleton (held : τ) (order : Order) :
    respondAll held [order] = respond held order := by
  simp [respondAll]

theorem acknowledged_cons (held : τ) (order : Order) (orders : List Order) :
    acknowledged held (order :: orders) =
      acks (respond held order).1 ++ acknowledged (respond held order).2 orders :=
  acks_append _ _

theorem acknowledged_append (held : τ) (orders others : List Order) :
    acknowledged held (orders ++ others) =
      acknowledged held orders ++ acknowledged (respondAll held orders).2 others := by
  rw [acknowledged, respondAll_append]
  exact acks_append _ _

/-! ## The answer to one command -/

theorem respond_accepted (held : τ) {order : Order} (accepted : order.refusal = none) :
    respond held order = answer held order.call := by
  rw [respond, accepted]

theorem length_le_targets (held : τ) (call : SubscriptionCall) :
    call.targets.length ≤ (targets held call).length := by
  unfold targets
  split
  · next bare => simp [bare]
  · simp

theorem ack?_of_mem_acknowledge {kind : AckKind} {held : τ} {names : List (Name τ)}
    {notice : Notice} (member : notice ∈ (acknowledge kind held names).1) :
    notice.ack? ≠ none := by
  induction names generalizing held with
  | nil => cases member
  | cons name names ih =>
      rcases List.mem_cons.1 member with rfl | later
      · exact nofun
      · exact ih later

theorem length_acknowledge (kind : AckKind) (held : τ) (names : List (Name τ)) :
    (acks (acknowledge kind held names).1).length = names.length := by
  induction names generalizing held with
  | nil => rfl
  | cons name names ih => exact congrArg Nat.succ (ih (change kind name held))

theorem latest_acknowledge (kind : AckKind) (held : τ) (names : List (Name τ)) :
    latest (total held) (acks (acknowledge kind held names).1) =
      total (acknowledge kind held names).2 := by
  induction names generalizing held with
  | nil => rfl
  | cons name names ih =>
      have changed := latest_append (total held) [⟨kind, total (change kind name held)⟩]
        (acks (acknowledge kind (change kind name held) names).1)
      exact changed.trans (ih (change kind name held))

theorem leaves_of_mem_acknowledge {kind : AckKind} {held : τ} {names : List (Name τ)} {ack : Ack}
    (member : ack ∈ acks (acknowledge kind held names).1) (nothing : ack.count = 0) :
    ack.Leaves := by
  induction names generalizing held with
  | nil => cases member
  | cons name names ih =>
      rcases List.mem_cons.1 member with rfl | later
      · cases leaving : kind.isUnsubscribe with
        | true => exact ⟨leaving, nothing⟩
        | false => exact absurd nothing (Nat.ne_of_gt (total_change name held leaving))
      · exact ih later

theorem ack?_of_mem_answer {held : τ} {call : SubscriptionCall} {notice : Notice}
    (member : notice ∈ (answer held call).1) : notice.ack? ≠ none := by
  unfold answer at member
  split at member
  · obtain rfl := List.mem_singleton.1 member
    exact nofun
  · exact ack?_of_mem_acknowledge member

theorem filter_respond (held : τ) (order : Order) :
    (respond held order).1.filter Notice.isAnswer = (respond held order).1 := by
  apply List.filter_eq_self.2
  intro notice member
  unfold respond at member
  split at member
  · obtain rfl := List.mem_singleton.1 member
    rfl
  · exact Notice.isAnswer_of_ack? (ack?_of_mem_answer member)

/-- The latest acknowledgement tells what is held from then on. -/
theorem latest_respond (held : τ) (order : Order) :
    latest (total held) (acks (respond held order).1) = total (respond held order).2 := by
  unfold respond answer
  split
  · rfl
  · split
    · rfl
    · exact latest_acknowledge _ held _

/-- An accepted command is acknowledged as often as the client counts, or more often. -/
theorem counted_le_respond (held : τ) {order : Order} (accepted : order.refusal = none) :
    max order.call.targets.length 1 ≤ (acks (respond held order).1).length := by
  have named := length_le_targets held order.call
  rw [respond_accepted held accepted]
  unfold answer
  split
  · next nothing =>
    rw [nothing] at named
    exact Nat.max_le.2 ⟨Nat.le_trans named (Nat.zero_le 1), Nat.le_refl 1⟩
  · next some =>
    rw [length_acknowledge]
    exact Nat.max_le.2 ⟨named, List.length_pos_iff.2 some⟩

theorem respond_ne_nil (held : τ) (order : Order) : (respond held order).1 ≠ [] := by
  cases refusal : order.refusal with
  | some cause => simp [respond, refusal]
  | none =>
      intro nothing
      have counted := counted_le_respond held refusal
      rw [nothing] at counted
      exact absurd (Nat.le_trans (Nat.le_max_right _ 1) counted) (by decide)

theorem leaves_of_mem_respond {held : τ} {order : Order} (sendable : order.call.Sendable)
    {ack : Ack} (member : ack ∈ acks (respond held order).1) (nothing : ack.count = 0) :
    ack.Leaves := by
  unfold respond answer at member
  split at member
  · cases member
  · split at member
    · next none_named =>
      have bare := length_le_targets held order.call
      rw [none_named] at bare
      obtain rfl := List.mem_singleton.1 member
      rcases sendable with named | leaving
      · exact absurd (List.eq_nil_of_length_eq_zero (Nat.le_zero.1 bare)) named
      · exact ⟨leaving, nothing⟩
    · exact leaves_of_mem_acknowledge member nothing

/-! ## The answers to a sequence of commands -/

/-- Where no command is refused, every answer is an acknowledgement. -/
theorem ack?_of_mem_respondAll {held : τ} {orders : List Order}
    (accepted : Order.AllAccepted orders) {notice : Notice}
    (member : notice ∈ (respondAll held orders).1) : notice.ack? ≠ none := by
  induction orders generalizing held with
  | nil => cases member
  | cons order orders ih =>
      obtain ⟨first, others⟩ := List.forall_mem_cons.1 accepted
      rcases List.mem_append.1 member with earlier | later
      · change notice ∈ (respond held order).1 at earlier
        rw [respond_accepted held first] at earlier
        exact ack?_of_mem_answer earlier
      · exact ih others later

theorem latest_acknowledged (held : τ) (orders : List Order) :
    latest (total held) (acknowledged held orders) = total (respondAll held orders).2 := by
  induction orders generalizing held with
  | nil => rfl
  | cons order orders ih =>
      have first := latest_respond held order
      have others := ih (respond held order).2
      rw [acknowledged_cons, latest_append, first, others]
      rfl

theorem counted_le_acknowledged (held : τ) {orders : List Order}
    (accepted : Order.AllAccepted orders) :
    Order.counted orders ≤ (acknowledged held orders).length := by
  induction orders generalizing held with
  | nil => exact Nat.le_refl 0
  | cons order orders ih =>
      obtain ⟨first, others⟩ := List.forall_mem_cons.1 accepted
      have one := counted_le_respond held first
      have rest := ih (respond held order).2 others
      rw [acknowledged_cons, List.length_append]
      exact Nat.add_le_add one rest

theorem leaves_of_mem_acknowledged {held : τ} {orders : List Order}
    (sendable : Order.AllSendable orders) {ack : Ack} (member : ack ∈ acknowledged held orders)
    (nothing : ack.count = 0) : ack.Leaves := by
  induction orders generalizing held with
  | nil => cases member
  | cons order orders ih =>
      obtain ⟨first, others⟩ := List.forall_mem_cons.1 sendable
      rw [acknowledged_cons] at member
      rcases List.mem_append.1 member with earlier | later
      · exact leaves_of_mem_respond first earlier nothing
      · exact ih others later

/-- Commands that nothing is still to come from are none. -/
theorem eq_nil_of_respondAll {held : τ} {orders : List Order}
    (nothing : (respondAll held orders).1 = []) : orders = [] := by
  cases orders with
  | nil => rfl
  | cons order orders =>
      exact absurd (List.append_eq_nil_iff.1 nothing).1 (respond_ne_nil held order)

end Broker

end RespClient
