import CursorQuery.Proofs.Source.Text
import CursorQuery.Source.ParseTree

/-!
This module contains where a node starts, in terms of the text alone: the lines that end before it and
the bytes before it in its own line are counted from one.
-/

namespace CursorQuery

structure Location.IsStartOf (location : Location) (source : Source) (node : ParseTree) : Prop where
  file : location.file = source.path
  offset : location.offset = node.span.start
  line : ∀ before rest : String, source.text = before ++ rest →
    before.utf8ByteSize = node.span.start → location.line = before.toList.count '\n' + 1
  column : ∀ lines current rest : String, source.text = lines ++ current ++ rest →
    (lines ++ current).utf8ByteSize = node.span.start →
    (lines = "" ∨ ∃ earlier, lines = earlier ++ "\n") → '\n' ∉ current.toList →
    location.column = current.utf8ByteSize + 1

namespace Source

variable {source : Source}

theorem byteLength_append (first later : List Char) :
    byteLength (first ++ later) = byteLength first + byteLength later := by
  induction first with
  | nil => simp [byteLength]
  | cons c first ih => rw [List.cons_append, byteLength, byteLength, ih, Nat.add_assoc]

theorem byteLength_reverse (cs : List Char) : byteLength cs.reverse = byteLength cs := by
  induction cs with
  | nil => rfl
  | cons c cs ih => simp [byteLength, byteLength_append, ih, Nat.add_comm]

theorem location_of_append {before rest : String} (htext : source.text = before ++ rest) :
    source.location before.utf8ByteSize =
      { file := source.path
        line := before.toList.count '\n' + 1
        column := byteLength (before.toList.reverse.takeWhile (· != '\n')) + 1
        offset := before.utf8ByteSize } := by
  unfold location
  rw [takeBytes_of_append htext]

theorem takeWhile_reverse_line {lines current : String}
    (hlines : lines = "" ∨ ∃ earlier, lines = earlier ++ "\n") (hcurrent : '\n' ∉ current.toList) :
    (lines ++ current).toList.reverse.takeWhile (· != '\n') = current.toList.reverse := by
  -- Going back from the end of the line, all of it is taken and nothing before it.
  have hall : ∀ c ∈ current.toList.reverse, (c != '\n') = true := by
    intro c hc
    rw [bne_iff_ne]
    rintro rfl
    exact hcurrent (List.mem_reverse.mp hc)
  rw [String.toList_append, List.reverse_append, List.takeWhile_append_of_pos hall]
  obtain rfl | ⟨earlier, rfl⟩ := hlines
  · simp
  · simp

theorem isStartOf_locationOf (source : Source) (node : ParseTree) :
    (source.locationOf node).IsStartOf source node where
  file := rfl
  offset := rfl
  line before rest htext hstart := by
    rw [locationOf, ← hstart, location_of_append htext]
  column lines current rest htext hstart hlines hcurrent := by
    rw [locationOf, ← hstart, location_of_append htext]
    rw [takeWhile_reverse_line hlines hcurrent, byteLength_reverse, byteLength_toList]

end Source
end CursorQuery
