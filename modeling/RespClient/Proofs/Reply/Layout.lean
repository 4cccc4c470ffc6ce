import Mathlib.Data.List.Forall2
import RespClient.Proofs.Reply.Decoding
import RespClient.Reply.Printer
import RespClient.Socket.Scripted

/-!
# The shape of a printed reply

A printed array is its items under each other, each behind its number, and an item is
printed there as it is printed alone, shifted to the right. So every line shows one leaf
of the tree. Texts are printed as they are, and the reader has only texts of one line to
offer; whatever bytes are in a bulk string, none of them breaks a line.
-/

namespace RespClient.Reply

/-! ## Shifted text -/

/-- The text with every line but the first moved to the right. -/
def shift (columns : Nat) (text : List Char) : List Char :=
  text.flatMap fun char => if char = '\n' then '\n' :: List.replicate columns ' ' else [char]

theorem shift_append (columns : Nat) (first second : List Char) :
    shift columns (first ++ second) = shift columns first ++ shift columns second :=
  List.flatMap_append

theorem shift_break (columns : Nat) (text : List Char) :
    shift columns ('\n' :: text) = '\n' :: List.replicate columns ' ' ++ shift columns text := rfl

theorem shift_of_free {text : List Char} (free : '\n' ∉ text) (columns : Nat) :
    shift columns text = text := by
  induction text with
  | nil => rfl
  | cons char text ih =>
      rw [List.mem_cons, not_or] at free
      rw [shift, List.flatMap_cons, if_neg (Ne.symm free.1)]
      exact congrArg (char :: ·) (ih free.2)

theorem free_blanks (columns : Nat) : '\n' ∉ List.replicate columns ' ' :=
  fun member => absurd (List.eq_of_mem_replicate member) (by decide)

theorem shift_shift (columns more : Nat) (text : List Char) :
    shift columns (shift more text) = shift (columns + more) text := by
  induction text with
  | nil => rfl
  | cons char text ih =>
      by_cases feed : char = '\n'
      · subst feed
        rw [shift_break, shift_break, List.cons_append, shift_break, shift_append,
          shift_of_free (free_blanks more), ih, List.cons_append, ← List.append_assoc,
          List.cons_append, List.replicate_append_replicate]
      · have alone (width : Nat) : shift width [char] = [char] :=
          shift_of_free (by simpa using Ne.symm feed) width
        rw [← List.singleton_append, shift_append, shift_append, shift_append, alone, alone, alone,
          ih]

theorem free_digits (value : Nat) : '\n' ∉ Decimal.digits value := by
  intro member
  have digit := List.all_eq_true.1 (Decimal.all_isDigit_digits value) _ member
  cases digit

theorem free_signedDigits (value : Int) : '\n' ∉ Decimal.signedDigits value := by
  cases value with
  | ofNat value => exact free_digits value
  | negSucc value => simpa [Decimal.signedDigits] using free_digits (value + 1)

theorem free_padLeft {chars : List Char} (free : '\n' ∉ chars) (width : Nat) :
    '\n' ∉ padLeft width chars := by
  simp [padLeft, free]

/-- An ASCII character that is neither a control character nor a line end. -/
def Printable (char : Char) : Prop :=
  0x20 ≤ char.toNat ∧ char.toNat ≤ 0x7e

instance (char : Char) : Decidable (Printable char) :=
  inferInstanceAs (Decidable (_ ∧ _))

theorem pair_printable {first second : Char} (one : Printable first) (two : Printable second) :
    ∀ char ∈ [first, second], Printable char :=
  List.forall_mem_cons.2 ⟨one, List.forall_mem_singleton.2 two⟩

theorem hexDigits_printable (byte : UInt8) : ∀ char ∈ hexDigits byte, Printable char := by
  have digit : ∀ value < 16, Printable (Nat.digitChar value) := by decide
  have size := byte.toNat_lt
  exact pair_printable (digit _ (by omega)) (digit _ (by omega))

theorem ascii_printable {value : Nat} (low : 0x20 ≤ value) (high : value ≤ 0x7e) :
    Printable (Char.ofNat value) := by
  have every : ∀ value < 0x7f, 0x20 ≤ value → Printable (Char.ofNat value) := by decide
  exact every value (by omega) low

theorem escapeByte_printable (byte : UInt8) : ∀ char ∈ escapeByte byte, Printable char := by
  have backslash : Printable '\\' := by decide
  unfold escapeByte
  split
  · exact pair_printable backslash (by decide)
  split
  · exact pair_printable backslash (by decide)
  split
  · exact pair_printable backslash (by decide)
  split
  · next quoted =>
      apply pair_printable backslash
      rcases quoted with rfl | rfl | rfl <;> decide
  split
  · next plain =>
      have shown : Printable (Char.ofNat byte.toNat) :=
        ascii_printable (UInt8.le_iff_toNat_le.1 plain.1) (UInt8.le_iff_toNat_le.1 plain.2)
      exact List.forall_mem_singleton.2 shown
  · exact List.forall_mem_cons.2
      ⟨backslash, List.forall_mem_cons.2 ⟨by decide, hexDigits_printable byte⟩⟩

theorem bulk_printable (indent : Nat) (bytes : Bytes) :
    ∀ char ∈ layout indent (bulk bytes), Printable char := by
  have text : layout indent (bulk bytes) = '"' :: (bytes.flatMap escapeByte ++ ['"']) := rfl
  intro char member
  rw [text] at member
  rcases List.mem_cons.1 member with rfl | member
  · decide
  rcases List.mem_append.1 member with escaped | member
  · obtain ⟨byte, -, shown⟩ := List.mem_flatMap.1 escaped
    exact escapeByte_printable byte char shown
  · rw [List.mem_singleton.1 member]
    decide

theorem free_of_printable {text : List Char} (printable : ∀ char ∈ text, Printable char) :
    '\n' ∉ text :=
  fun member => absurd (printable _ member) (by decide)

/-! ## Replies of one line each -/

/-- A reply whose texts hold no line feed. -/
inductive OneLined : Reply → Prop where
  | nil : OneLined nil
  | integer (value : Int64) : OneLined (integer value)
  | simple {text : String} (free : '\n' ∉ text.toList) : OneLined (simple text)
  | bulk (bytes : Bytes) : OneLined (bulk bytes)
  | array {items : List Reply} (each : ∀ item ∈ items, OneLined item) : OneLined (array items)
  | error {message : String} (free : '\n' ∉ message.toList) : OneLined (error message)

mutual

/-- The scalars and the empty arrays in a reply, from left to right. -/
def leaves : Reply → List Reply
  | array [] => [array []]
  | array items => leavesIn items
  | reply => [reply]

def leavesIn : List Reply → List Reply
  | [] => []
  | item :: rest => leaves item ++ leavesIn rest

end

/-- Either a reply is a leaf, or it is an array with items in it. -/
@[elab_as_elim]
theorem OneLined.leaf_or_node {motive : Reply → Prop}
    (leaf : ∀ reply, OneLined reply → (∀ item rest, reply ≠ Reply.array (item :: rest)) →
      motive reply)
    (node : ∀ item rest, (∀ other ∈ item :: rest, OneLined other) →
      (∀ other ∈ item :: rest, motive other) → motive (Reply.array (item :: rest)))
    {reply : Reply} (lined : OneLined reply) : motive reply := by
  induction lined with
  | nil => exact leaf _ .nil nofun
  | integer value => exact leaf _ (.integer value) nofun
  | simple free => exact leaf _ (.simple free) nofun
  | bulk bytes => exact leaf _ (.bulk bytes) nofun
  | error free => exact leaf _ (.error free) nofun
  | @array items each ih =>
      cases items with
      | nil => exact leaf _ (.array each) nofun
      | cons item rest => exact node item rest each ih

/-- A reply that is printed in one line. -/
theorem layout_of_leaf {reply : Reply} (lined : OneLined reply)
    (leaf : ∀ item rest, reply ≠ array (item :: rest)) :
    leaves reply = [reply] ∧ '\n' ∉ layout 0 reply ∧
      ∀ indent, layout indent reply = layout 0 reply := by
  cases lined with
  | nil => exact ⟨rfl, by decide, fun _ => rfl⟩
  | integer value =>
      have text : layout 0 (integer value) =
        "(integer) ".toList ++ Decimal.signedDigits value.toInt := rfl
      refine ⟨rfl, ?_, fun _ => rfl⟩
      rw [text, List.mem_append, not_or]
      exact ⟨by decide, free_signedDigits value.toInt⟩
  | simple free => exact ⟨rfl, free, fun _ => rfl⟩
  | bulk bytes => exact ⟨rfl, free_of_printable (bulk_printable 0 bytes), fun _ => rfl⟩
  | @array items each =>
      cases items with
      | nil => exact ⟨rfl, by decide, fun _ => rfl⟩
      | cons item rest => exact absurd rfl (leaf item rest)
  | @error message free =>
      have text : layout 0 (error message) = "(error) ".toList ++ message.toList := rfl
      refine ⟨rfl, ?_, fun _ => rfl⟩
      rw [text, List.mem_append, not_or]
      exact ⟨by decide, free⟩

/-! ## Items under each other -/

/-- The number in front of an item. -/
def heading (width index : Nat) : List Char :=
  padLeft width (Decimal.digits index) ++ [')', ' ']

theorem free_heading (width index : Nat) : '\n' ∉ heading width index := by
  rw [heading, List.mem_append, not_or]
  exact ⟨free_padLeft (free_digits index) width, by decide⟩

theorem layoutItems_cons (indent width index : Nat) (item : Reply) (rest : List Reply) :
    layoutItems indent width index (item :: rest) =
      lineBreak index indent ++ (heading width index ++
        (layout (indent + width + 2) item ++ layoutItems indent width (index + 1) rest)) := by
  have unfolded : layoutItems indent width index (item :: rest) =
      lineBreak index indent ++ padLeft width (Decimal.digits index) ++ ')' :: ' ' ::
        (layout (indent + width + 2) item ++ layoutItems indent width (index + 1) rest) := rfl
  rw [unfolded, heading, List.append_assoc, List.append_assoc]
  rfl

theorem shift_lineBreak (index indent : Nat) :
    shift indent (lineBreak index 0) = lineBreak index indent := by
  unfold lineBreak
  split
  · rfl
  · rw [List.replicate_zero, shift_break]
    exact List.append_nil _

/-- Printed alone and then moved to the right, or printed there. -/
def Shifts (reply : Reply) : Prop :=
  ∀ indent, layout indent reply = shift indent (layout 0 reply)

theorem layoutItems_shift {items : List Reply} (each : ∀ item ∈ items, Shifts item)
    (indent width index : Nat) :
    layoutItems indent width index items = shift indent (layoutItems 0 width index items) := by
  induction items generalizing index with
  | nil => rfl
  | cons item rest ih =>
      have first := each item List.mem_cons_self
      have others := ih (fun item member => each item (List.mem_cons_of_mem _ member)) (index + 1)
      rw [layoutItems_cons, layoutItems_cons, shift_append, shift_append, shift_append,
        shift_lineBreak, shift_of_free (free_heading width index), others,
        first (indent + width + 2), first (0 + width + 2), shift_shift]
      simp only [Nat.zero_add, Nat.add_assoc]

/-- What a reply looks like does not depend on where it stands. -/
theorem OneLined.shifts {reply : Reply} (lined : OneLined reply) : Shifts reply := by
  refine lined.leaf_or_node (fun reply lined leaf => ?_) (fun item rest each ih => ?_)
  · obtain ⟨-, free, still⟩ := layout_of_leaf lined leaf
    intro indent
    rw [still, shift_of_free free]
  · exact fun indent => layoutItems_shift ih indent _ 1

/-- An item with its number, as it stands among the items of an array. -/
def entry (width index : Nat) (item : Reply) : List Char :=
  heading width index ++ shift (width + 2) (layout 0 item)

/-- The items as they stand under each other, the first of them with this number. -/
def entries (width first : Nat) (items : List Reply) : List (List Char) :=
  items.mapIdx fun index item => entry width (first + index) item

theorem entries_cons (width first : Nat) (item : Reply) (rest : List Reply) :
    entries width first (item :: rest) =
      entry width first item :: entries width (first + 1) rest := by
  rw [entries, List.mapIdx_cons, entries, Nat.add_zero]
  simp only [Nat.add_assoc, Nat.add_comm 1]

theorem layoutItems_entries {item : Reply} {rest : List Reply}
    (each : ∀ other ∈ item :: rest, Shifts other) {first : Nat} (counted : 0 < first)
    (width : Nat) :
    layoutItems 0 width first (item :: rest) =
      lineBreak first 0 ++ ['\n'].intercalate (entries width first (item :: rest)) := by
  induction rest generalizing item first with
  | nil =>
      have last : layoutItems 0 width (first + 1) [] = [] := rfl
      have alone : entries width first [item] = [entry width first item] := rfl
      rw [layoutItems_cons, each item List.mem_cons_self, last, alone, List.intercalate_singleton,
        List.append_nil, Nat.zero_add]
      rfl
  | cons next rest ih =>
      have others := ih (fun other member => each other (List.mem_cons_of_mem _ member))
        (Nat.succ_pos first)
      have later : lineBreak (first + 1) 0 = ['\n'] := if_neg (by omega)
      have more : entries width (first + 1) (next :: rest) ≠ [] := by
        rw [entries_cons]
        nofun
      rw [layoutItems_cons, each item List.mem_cons_self, others, later,
        entries_cons width first item, List.intercalate_cons_of_ne_nil more, entry, Nat.zero_add]
      simp only [List.append_assoc]

/-! ## One line for each leaf -/

/-- What stands on a line in front of a leaf: numbers, and blanks under those of other lines. -/
def Margin (margin : List Char) : Prop :=
  ∀ char ∈ margin, char = ' ' ∨ char = ')' ∨ char.isDigit = true

theorem Margin.free {margin : List Char} (blank : Margin margin) : '\n' ∉ margin :=
  fun member => absurd (blank _ member) (by decide)

theorem Margin.append {first second : List Char} (left : Margin first) (right : Margin second) :
    Margin (first ++ second) :=
  fun char member => (List.mem_append.1 member).elim (left char) (right char)

theorem margin_blanks (columns : Nat) : Margin (List.replicate columns ' ') :=
  fun _ member => .inl (List.eq_of_mem_replicate member)

theorem margin_heading (width index : Nat) : Margin (heading width index) := by
  have number : Margin (Decimal.digits index) := fun char member =>
    .inr (.inr (List.all_eq_true.1 (Decimal.all_isDigit_digits index) char member))
  have closing : Margin [')', ' '] :=
    List.forall_mem_cons.2 ⟨.inr (.inl rfl), List.forall_mem_singleton.2 (.inl rfl)⟩
  exact ((margin_blanks _).append number).append closing

/-- The line ends with the leaf, and in front of that is nothing but its margin. -/
def Shows (leaf : Reply) (line : List Char) : Prop :=
  ∃ margin, Margin margin ∧ line = margin ++ layout 0 leaf

theorem Shows.indent {leaf : Reply} {line margin : List Char} (shows : Shows leaf line)
    (blank : Margin margin) : Shows leaf (margin ++ line) := by
  obtain ⟨before, also, rfl⟩ := shows
  exact ⟨margin ++ before, blank.append also, (List.append_assoc _ _ _).symm⟩

/-- The lines of a text. -/
def lines (text : List Char) : List (List Char) :=
  text.splitOn '\n'

/-- The lines show these leaves, one each and in this order. -/
abbrev ShowsAll (leaves : List Reply) (lines : List (List Char)) : Prop :=
  List.Forall₂ Shows leaves lines

theorem ShowsAll.line {leaf : Reply} {line : List Char} (shows : Shows leaf line)
    (free : '\n' ∉ line) : ShowsAll [leaf] (lines line) := by
  rw [lines, List.splitOn_eq_singleton free]
  exact .cons shows .nil

/-- A text shows the same leaves after it has been moved to the right, its first line by a margin
of its own. The induction is on the text behind what has been read of a line. -/
theorem ShowsAll.shift {shown : List Reply} {margin begun text : List Char}
    (blank : Margin margin) (free : '\n' ∉ begun) (columns : Nat)
    (all : ShowsAll shown (lines (begun ++ text))) :
    ShowsAll shown (lines (margin ++ begun ++ Reply.shift columns text)) := by
  have apart : '\n' ∉ margin ++ begun := by
    rw [List.mem_append, not_or]
    exact ⟨blank.free, free⟩
  induction text generalizing shown margin begun with
  | nil =>
      rw [List.append_nil, lines, List.splitOn_eq_singleton free] at all
      cases all with
      | cons first none =>
          cases none
          have empty : Reply.shift columns [] = [] := rfl
          rw [empty, List.append_nil]
          exact .line (first.indent blank) apart
  | cons char text ih =>
      by_cases feed : char = '\n'
      · subst feed
        rw [lines, List.splitOn_append_cons_self_of_not_mem free] at all
        cases all with
        | cons first others =>
            rw [shift_break, lines, List.cons_append,
              List.splitOn_append_cons_self_of_not_mem apart]
            refine .cons (first.indent blank) ?_
            have moved := ih (margin_blanks columns) List.not_mem_nil others
              (by simp)
            rwa [List.append_nil] at moved
      · have alone : Reply.shift columns [char] = [char] :=
          shift_of_free (by simpa using Ne.symm feed) columns
        have longer : '\n' ∉ begun ++ [char] := by simpa [free] using Ne.symm feed
        rw [← List.singleton_append, ← List.append_assoc] at all
        rw [← List.singleton_append, shift_append, alone, ← List.append_assoc,
          List.append_assoc margin]
        exact ih blank longer all (by simpa [blank.free, free] using Ne.symm feed)

theorem entry_lines {item : Reply} (shown : ShowsAll (leaves item) (lines (layout 0 item)))
    (width index : Nat) : ShowsAll (leaves item) (lines (entry width index item)) := by
  have moved := ShowsAll.shift (margin_heading width index) List.not_mem_nil (width + 2) shown
  rwa [List.append_nil] at moved

theorem entries_lines {item : Reply} {rest : List Reply}
    (shown : ∀ other ∈ item :: rest, ShowsAll (leaves other) (lines (layout 0 other)))
    (width first : Nat) :
    ShowsAll (leavesIn (item :: rest))
      (lines (['\n'].intercalate (entries width first (item :: rest)))) := by
  have here := entry_lines (shown item List.mem_cons_self) width first
  induction rest generalizing item first with
  | nil =>
      have alone : entries width first [item] = [entry width first item] := rfl
      rw [leavesIn, leavesIn, List.append_nil, alone, List.intercalate_singleton]
      exact here
  | cons next rest ih =>
      have more : entries width (first + 1) (next :: rest) ≠ [] := by
        rw [entries_cons]
        nofun
      have later := shown next (List.mem_cons_of_mem _ List.mem_cons_self)
      have others := ih (fun other member => shown other (List.mem_cons_of_mem _ member))
        (first + 1) (entry_lines later width (first + 1))
      rw [leavesIn, entries_cons width first item, List.intercalate_cons_of_ne_nil more,
        List.append_assoc, List.singleton_append, lines, List.splitOn_append_cons_self]
      exact List.rel_append here others

theorem OneLined.showsAll {reply : Reply} (lined : OneLined reply) :
    ShowsAll (leaves reply) (lines (layout 0 reply)) := by
  refine lined.leaf_or_node (fun reply lined leaf => ?_) (fun item rest each ih => ?_)
  · obtain ⟨single, free, -⟩ := layout_of_leaf lined leaf
    rw [single]
    exact .line ⟨[], nofun, rfl⟩ free
  · have text : layout 0 (Reply.array (item :: rest)) =
      layoutItems 0 (Decimal.digits (rest.length + 1)).length 1 (item :: rest) := rfl
    have listed := layoutItems_entries (fun other member => (each other member).shifts)
      Nat.one_pos (Decimal.digits (rest.length + 1)).length
    rw [text, listed]
    exact entries_lines ih _ 1

/-! ## Replies off the wire -/

theorem lineFeed_mem_ofText {text : String} (member : '\n' ∈ text.toList) :
    Bytes.lineFeed ∈ Bytes.ofText text := by
  rw [Bytes.ofText, ← String.utf8Encode_toList, List.utf8Encode]
  simp only [List.toList_data_toByteArray, List.mem_flatMap]
  exact ⟨'\n', member, by decide⟩

mutual

theorem Frame.oneLined {allowed : Bytes → Prop} {depth : Nat} {reply : Reply} {bytes : Bytes}
    (frame : Frame allowed depth reply bytes) : OneLined reply := by
  cases frame with
  | simple free fits => exact .simple fun member => free (lineFeed_mem_ofText member)
  | error free fits => exact .error fun member => free (lineFeed_mem_ofText member)
  | integer numeral fits => exact .integer _
  | noBulk numeral fits => exact .nil
  | bulk numeral short fits => exact .bulk _
  | noArray numeral fits => exact .nil
  | array numeral countable shallow fits contents => exact .array contents.oneLined

theorem Frames.oneLined {allowed : Bytes → Prop} {depth : Nat} {items : List Reply} {bytes : Bytes}
    (frames : Frames allowed depth items bytes) : ∀ item ∈ items, OneLined item := by
  cases frames with
  | nil => exact nofun
  | cons first others =>
      have here := first.oneLined
      have later := others.oneLined
      exact List.forall_mem_cons.2 ⟨here, later⟩

end

theorem toList_print (reply : Reply) : (print reply).toList = layout 0 reply :=
  String.toList_ofList

example : print (array [nil, array [integer 7, array []], simple "a"]) =
    "1) (nil)\n2) 1) (integer) 7\n   2) (empty array)\n3) a" := by
  decide

end RespClient.Reply
