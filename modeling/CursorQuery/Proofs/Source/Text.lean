import CursorQuery.Source.Text

/-!
This module contains what two source texts have in common if they begin alike: the texts between the
characters of this beginning, and the places in it.
-/

namespace CursorQuery

/-- The span lies between characters of the text, in its first `stop` bytes. -/
structure Span.LiesIn (span : Span) (text : String) (stop : Nat) : Prop where
  start_le : span.start ≤ span.stop
  stop_le : span.stop ≤ stop
  start_isValid : (⟨span.start⟩ : String.Pos.Raw).IsValid text
  stop_isValid : (⟨span.stop⟩ : String.Pos.Raw).IsValid text

instance (span : Span) (text : String) (stop : Nat) : Decidable (span.LiesIn text stop) :=
  decidable_of_iff (span.start ≤ span.stop ∧ span.stop ≤ stop
      ∧ (⟨span.start⟩ : String.Pos.Raw).IsValid text ∧ (⟨span.stop⟩ : String.Pos.Raw).IsValid text)
    ⟨fun ⟨hstart, hstop, hopened, hclosed⟩ => ⟨hstart, hstop, hopened, hclosed⟩,
      fun ⟨hstart, hstop, hopened, hclosed⟩ => ⟨hstart, hstop, hopened, hclosed⟩⟩

namespace Source

/-- The sources have the same path, and their texts have the same first `stop` bytes. -/
structure BeginAlike (source source' : Source) (stop : Nat) : Prop where
  path : source'.path = source.path
  text : source'.text.toByteArray.extract 0 stop = source.text.toByteArray.extract 0 stop

theorem byteLength_toList (s : String) : byteLength s.toList = s.utf8ByteSize := by
  obtain ⟨cs, rfl⟩ : ∃ cs, s = String.ofList cs := ⟨s.toList, String.ofList_toList.symm⟩
  rw [String.toList_ofList]
  induction cs with
  | nil => rfl
  | cons c cs ih =>
    rw [String.ofList_cons, String.utf8ByteSize_append, String.utf8ByteSize_singleton, byteLength, ih]

theorem exists_byteLength_cons (c : Char) (cs : List Char) :
    ∃ n, byteLength (c :: cs) = n + 1 ∧ n + 1 - c.utf8Size = byteLength cs := by
  -- Characters have at least one byte, so the bytes of a character can be taken off one by one.
  have hpos := c.utf8Size_pos
  refine ⟨byteLength (c :: cs) - 1, ?_, ?_⟩
  · rw [byteLength]
    omega
  · rw [byteLength]
    omega

theorem takeBytes_append (cs rest : List Char) : takeBytes (byteLength cs) (cs ++ rest) = cs := by
  induction cs with
  | nil => simp [byteLength, takeBytes]
  | cons c cs ih =>
    obtain ⟨n, hn, hrest⟩ := exists_byteLength_cons c cs
    rw [hn, List.cons_append, takeBytes, hrest, ih]

theorem dropBytes_append (cs rest : List Char) : dropBytes (byteLength cs) (cs ++ rest) = rest := by
  induction cs with
  | nil => simp [byteLength, dropBytes]
  | cons c cs ih =>
    obtain ⟨n, hn, hrest⟩ := exists_byteLength_cons c cs
    rw [hn, List.cons_append, dropBytes, hrest, ih]

theorem slice_append {source : Source} {opened inside after : String}
    (htext : source.text = opened ++ inside ++ after) {span : Span}
    (hstart : span.start = opened.utf8ByteSize) (hstop : span.stop = (opened ++ inside).utf8ByteSize) :
    source.slice span = inside := by
  unfold slice
  rw [htext, hstart, hstop, String.utf8ByteSize_append, Nat.add_sub_cancel_left, String.append_assoc,
    String.toList_append, ← byteLength_toList opened, dropBytes_append, String.toList_append,
    ← byteLength_toList inside, takeBytes_append, String.ofList_toList]

theorem takeBytes_of_append {source : Source} {opened after : String}
    (htext : source.text = opened ++ after) :
    takeBytes opened.utf8ByteSize source.text.toList = opened.toList := by
  rw [htext, String.toList_append, ← byteLength_toList opened, takeBytes_append]

theorem BeginAlike.exists_append {source source' : Source} {stop : Nat}
    (h : source.BeginAlike source' stop) {opened rest : String} (htext : source.text = opened ++ rest)
    (hstop : opened.utf8ByteSize ≤ stop) : ∃ rest', source'.text = opened ++ rest' := by
  have hbytes : source'.text.toByteArray.extract 0 opened.utf8ByteSize = opened.toByteArray := by
    have hshort := congrArg (·.extract 0 opened.utf8ByteSize) h.text
    simp only [ByteArray.extract_extract, Nat.zero_add, Nat.min_eq_left hstop] at hshort
    rw [hshort, htext, String.toByteArray_append]
    exact ByteArray.extract_append_eq_left rfl
  have hle : opened.utf8ByteSize ≤ source'.text.utf8ByteSize := by
    have hsize := congrArg ByteArray.size hbytes
    rw [ByteArray.size_extract, String.size_toByteArray, String.size_toByteArray] at hsize
    omega
  have hvalid : (⟨opened.utf8ByteSize⟩ : String.Pos.Raw).IsValid source'.text := by
    rw [String.Pos.Raw.isValid_iff_isValidUTF8_extract_zero]
    refine ⟨hle, ?_⟩
    rw [hbytes]
    exact opened.isValidUTF8
  obtain ⟨opened', rest', htext', hopened⟩ := String.Pos.Raw.isValid_iff_exists_append.mp hvalid
  have hsame : opened'.toByteArray = opened.toByteArray := by
    rw [← hbytes, htext', String.toByteArray_append]
    exact (ByteArray.extract_append_eq_left (congrArg String.Pos.Raw.byteIdx hopened)).symm
  rw [String.toByteArray_inj] at hsame
  exact ⟨rest', by rw [htext', hsame]⟩

end Source

theorem Span.LiesIn.exists_append {span : Span} {text : String} {stop : Nat}
    (h : span.LiesIn text stop) : ∃ opened inside after,
      text = opened ++ inside ++ after ∧ span.start = opened.utf8ByteSize
        ∧ span.stop = (opened ++ inside).utf8ByteSize := by
  obtain ⟨opened, rest, htext, hstart⟩ := String.Pos.Raw.isValid_iff_exists_append.mp h.start_isValid
  obtain ⟨closed, after, htext', hstop⟩ := String.Pos.Raw.isValid_iff_exists_append.mp h.stop_isValid
  replace hstart : span.start = opened.utf8ByteSize := congrArg String.Pos.Raw.byteIdx hstart
  replace hstop : span.stop = closed.utf8ByteSize := congrArg String.Pos.Raw.byteIdx hstop
  have hclosed : ∃ inside, closed = opened ++ inside := by
    have hsame : opened.toList ++ rest.toList = closed.toList ++ after.toList := by
      rw [← String.toList_append, ← String.toList_append, ← htext, htext']
    cases List.append_eq_append_iff.mp hsame with
    | inl hlonger =>
      obtain ⟨inside, hinside, -⟩ := hlonger
      refine ⟨String.ofList inside, String.toList_inj.mp ?_⟩
      rw [hinside, String.toList_append, String.toList_ofList]
    | inr hshorter =>
      -- The beginning would be the longer one, so there is nothing in between.
      obtain ⟨beyond, hbeyond, -⟩ := hshorter
      have hopened : opened = closed ++ String.ofList beyond := by
        rw [← String.toList_inj, hbeyond, String.toList_append, String.toList_ofList]
      have hnone : String.ofList beyond = "" := by
        have hsize := congrArg String.utf8ByteSize hopened
        have hle := h.start_le
        rw [String.utf8ByteSize_append] at hsize
        rw [← String.utf8ByteSize_eq_zero_iff]
        omega
      rw [hnone, String.append_empty] at hopened
      exact ⟨"", by rw [hopened, String.append_empty]⟩
  obtain ⟨inside, rfl⟩ := hclosed
  exact ⟨opened, inside, after, htext', hstart, hstop⟩

namespace Source

variable {source source' : Source} {stop : Nat} {span : Span}

theorem BeginAlike.slice_eq (h : source.BeginAlike source' stop)
    (hspan : span.LiesIn source.text stop) : source'.slice span = source.slice span := by
  obtain ⟨opened, inside, after, htext, hstart, hstop⟩ := hspan.exists_append
  obtain ⟨after', htext'⟩ := h.exists_append htext (hstop ▸ hspan.stop_le)
  rw [slice_append htext hstart hstop, slice_append htext' hstart hstop]

theorem BeginAlike.location_eq (h : source.BeginAlike source' stop)
    (hspan : span.LiesIn source.text stop) :
    source'.location span.start = source.location span.start := by
  obtain ⟨opened, inside, after, htext, hstart, -⟩ := hspan.exists_append
  rw [String.append_assoc] at htext
  have hle : opened.utf8ByteSize ≤ stop := by
    rw [← hstart]
    exact Nat.le_trans hspan.start_le hspan.stop_le
  obtain ⟨after', htext'⟩ := h.exists_append htext hle
  unfold location
  rw [hstart, takeBytes_of_append htext, takeBytes_of_append htext', h.path]

end Source
end CursorQuery
