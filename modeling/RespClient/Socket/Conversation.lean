import RespClient.Socket.Basic

/-!
# Conversations

What has been exchanged with a peer so far, as a socket. A call that needs more
than the peer has sent starves the conversation, and nothing is written after
that. The same session on a longer conversation repeats everything up to the call
that starved, so it can be run again whenever more has come in.
-/

namespace RespClient

/-- What is known about the peer beyond the bytes it has sent. -/
inductive Peer where
  /-- More may come. -/
  | talking
  /-- Nothing came within the time limit of the last wait. -/
  | silent
  | gone
  | lost (cause : IoError)

structure Conversation where
  /-- Bytes that the peer has sent and the session has not read. -/
  unread : Bytes
  peer : Peer
  /-- What the session has written, the latest slice first. -/
  sent : List Bytes := []
  /-- The time limit of the call that found nothing. -/
  starved : Option (Option Nat) := none

namespace Conversation

def written (conversation : Conversation) : Bytes :=
  conversation.sent.reverse.flatten

def starve (conversation : Conversation) (timeout : Option Nat) : Conversation :=
  { conversation with starved := conversation.starved <|> some timeout }

def read (conversation : Conversation) (room : Nat) : Delivery × Conversation :=
  match conversation.unread, conversation.peer with
  | [], .talking => (.failed .unavailable, conversation.starve none)
  | [], .silent => (.failed .unavailable, conversation)
  | [], .lost cause => (.failed cause, conversation)
  | unread, _ => (.received (unread.take room), { conversation with unread := unread.drop room })

def write (conversation : Conversation) (slices : List Bytes) : Acceptance × Conversation :=
  if conversation.starved.isSome then (.failed .unavailable, conversation)
  else
    (.accepted (totalLength slices),
      { conversation with sent := slices.reverseAux conversation.sent })

def wait (conversation : Conversation) (timeout : Option Nat) :
    Except IoError Bool × Conversation :=
  match conversation.unread, conversation.peer with
  | [], .talking => (.ok false, conversation.starve timeout)
  | [], .silent => (.ok false, conversation)
  | [], .lost cause => (.error cause, conversation)
  | _, _ => (.ok true, conversation)

instance : Socket Conversation where
  read := read
  write := write
  flush conversation := (.ok (), conversation)
  wait := wait
  pending := unread
  patience _ := 0
  read_received := by
    intro conversation after room bytes delivered
    unfold read at delivered
    split at delivered
    · cases delivered
    · cases delivered
    · cases delivered
    · cases delivered
      refine ⟨?_, (List.take_append_drop room conversation.unread).symm⟩
      simp only [List.length_take]
      omega
  read_interrupted := by
    intro conversation after room delivered
    unfold read at delivered
    split at delivered <;> cases delivered
  read_failed := by
    intro conversation after room cause delivered
    unfold read at delivered
    split at delivered
    · cases delivered; rfl
    · cases delivered; rfl
    · cases delivered; rfl
    · cases delivered
  write_accepted := by
    intro conversation after slices count accepted
    unfold write at accepted
    split at accepted
    · cases accepted
    · cases accepted; exact Nat.le_refl _
  write_interrupted := by
    intro conversation after slices interrupted
    unfold write at interrupted
    split at interrupted <;> cases interrupted
  pending_wait conversation timeout := by
    unfold wait
    split <;> rfl

end Conversation

end RespClient
