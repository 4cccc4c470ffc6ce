import RespClient.Proofs.Reply.Grammar

/-!
# How large a reply is

What a frame makes in memory is in proportion to its bytes. Each value in a reply has a
header of its own, a string has its bytes on the wire, and no array stands in more arrays
than the grammar allows.
-/

namespace RespClient.Reply

mutual

/-- All values in a reply, from itself on. -/
def values : Reply → List Reply
  | array items => array items :: valuesIn items
  | reply => [reply]

def valuesIn : List Reply → List Reply
  | [] => []
  | item :: rest => values item ++ valuesIn rest

end

/-- The length of a string on the wire. Other values have none. -/
def stringLength : Reply → Nat
  | simple text => (Bytes.ofText text).length
  | error message => (Bytes.ofText message).length
  | bulk bytes => bytes.length
  | _ => 0

/-- The number of some values together with the lengths of the strings among them. -/
def footprint : List Reply → Nat
  | [] => 0
  | item :: rest => stringLength item + 1 + footprint rest

theorem footprint_append (first second : List Reply) :
    footprint (first ++ second) = footprint first + footprint second := by
  induction first with
  | nil => exact (Nat.zero_add _).symm
  | cons item rest ih =>
      rw [List.cons_append, footprint, footprint, ih, Nat.add_assoc _ _ (footprint second)]

/-- An array in which arrays stand inside each other to so many levels, itself the first. -/
inductive Nests : Reply → Nat → Prop where
  | here (items : List Reply) : Nests (array items) 1
  | inside {items : List Reply} {item : Reply} {levels : Nat} (member : item ∈ items)
      (deep : Nests item levels) : Nests (array items) (levels + 1)

variable {allowed : Bytes → Prop}

theorem length_headed (type : Char) (line : Bytes) :
    (headed type line).length = line.length + 3 := by
  simp [headed, Bytes.crlf]

theorem Frames.exists_frame {depth : Nat} {items : List Reply} {item : Reply} {bytes : Bytes}
    (frames : Frames allowed depth items bytes) (member : item ∈ items) :
    ∃ part, Frame allowed depth item part := by
  induction items generalizing bytes with
  | nil => cases member
  | cons head rest ih =>
      cases frames with
      | cons first others =>
          rcases List.mem_cons.1 member with rfl | later
          · exact ⟨_, first⟩
          · exact ih others later

mutual

/-- Each value in the reply of a frame has a frame of its own, at least as deep. -/
theorem Frame.of_mem_values {depth : Nat} {reply item : Reply} {bytes : Bytes}
    (frame : Frame allowed depth reply bytes) (member : item ∈ values reply) :
    ∃ below part, depth ≤ below ∧ Frame allowed below item part := by
  cases frame with
  | array numeral countable shallow fits contents =>
      rw [values] at member
      rcases List.mem_cons.1 member with rfl | inside
      · exact ⟨depth, _, Nat.le_refl depth, .array numeral countable shallow fits contents⟩
      · obtain ⟨below, part, deeper, inner⟩ := contents.of_mem_valuesIn inside
        exact ⟨below, part, Nat.le_of_succ_le deeper, inner⟩
  | _ =>
      rw [values, List.mem_singleton] at member
      · subst member
        exact ⟨depth, _, Nat.le_refl depth, by constructor <;> assumption⟩
      · nofun

theorem Frames.of_mem_valuesIn {depth : Nat} {items : List Reply} {item : Reply} {bytes : Bytes}
    (frames : Frames allowed depth items bytes) (member : item ∈ valuesIn items) :
    ∃ below part, depth ≤ below ∧ Frame allowed below item part := by
  cases frames with
  | nil => cases member
  | cons first others =>
      rw [valuesIn] at member
      rcases List.mem_append.1 member with here | later
      · exact first.of_mem_values here
      · exact others.of_mem_valuesIn later

end

/-- The depth of a frame and what is nested in it are within the limit together. -/
theorem Nests.within {reply : Reply} {levels depth : Nat} (nests : Nests reply levels)
    {bytes : Bytes} (frame : Frame allowed depth reply bytes) : depth + levels ≤ maxNesting := by
  induction nests generalizing depth bytes with
  | here items =>
      cases frame with
      | array numeral countable shallow fits contents => exact shallow
  | inside member deep ih =>
      cases frame with
      | array numeral countable shallow fits contents =>
          obtain ⟨part, inner⟩ := contents.exists_frame member
          have within := ih inner
          omega

mutual

/-- A frame has at least as many bytes as there are values and bytes of strings in its reply. -/
theorem Frame.footprint_le {depth : Nat} {reply : Reply} {bytes : Bytes}
    (frame : Frame allowed depth reply bytes) : footprint (values reply) ≤ bytes.length := by
  cases frame with
  | array numeral countable shallow fits contents =>
      have inside := contents.footprint_le
      rw [values, footprint, List.length_append, length_headed]
      simp only [stringLength]
      omega
  | bulk numeral short fits =>
      rw [values, footprint, footprint, List.length_append, List.length_append, length_headed,
        stringLength]
      · omega
      · nofun
  | _ =>
      rw [values, footprint, footprint, length_headed]
      · simp only [stringLength]
        omega
      · nofun

theorem Frames.footprint_le {depth : Nat} {items : List Reply} {bytes : Bytes}
    (frames : Frames allowed depth items bytes) : footprint (valuesIn items) ≤ bytes.length := by
  cases frames with
  | nil => exact Nat.le_refl _
  | cons first others =>
      rw [valuesIn, footprint_append, List.length_append]
      exact Nat.add_le_add first.footprint_le others.footprint_le

end

end RespClient.Reply
