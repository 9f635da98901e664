import Tilde.Proofs.Utf8.Pieces
import Tilde.Shell.Run

/-!
# Streaming and capturing agree

A streamed command writes chunks: the texts of the pieces of its output, without the empty ones,
and what the decoder still holds at the end. Forwarding is writing these one after the other, each
flushed behind it (`forward_eq`), so it gets as far as the sink takes them. Together they are the text
that capturing gives, and no chunk ends within a character (`chunks_split`).
-/

namespace Tilde.Shell

open Utf8 (Decoder decode decodeText)

variable {ω : Type} {host : Host ω} {chunk : String} {before after : List String}
  {child : Child} {command : String} {w w₁ w₂ : ω} {e : OsError}

/-! ## Chunks -/

/-- The texts without the empty ones. -/
def nonempty (texts : List (List Char)) : List String :=
  (texts.map String.ofList).filter (!·.isEmpty)

/-- The texts that are written for pieces of output, from a decoder on. -/
def chunksFrom (d : Decoder) (pieces : List (List UInt8)) : List String :=
  nonempty ((d.feedAll pieces).1 ++ [(d.feedAll pieces).2.finish])

/-- The texts that the output of a command is written in. -/
def chunks (child : Child) : List String := chunksFrom {} (child.pieces.map (·.2))

/-- Writes texts to the output and flushes each, until this fails. -/
def writeAll (host : Host ω) : List String → ω → Option OsError × ω
  | [], w => (none, w)
  | text :: texts, w =>
    match host.put .output [text] w with
    | (some e, w) => (some e, w)
    | (none, w) => writeAll host texts w

theorem nonempty_cons (text : List Char) (texts : List (List Char)) :
    nonempty (text :: texts)
      = if (String.ofList text).isEmpty then nonempty texts
        else String.ofList text :: nonempty texts := by
  simp only [nonempty, List.map_cons, List.filter_cons]
  grind

theorem join_nonempty (texts : List (List Char)) :
    (String.join (nonempty texts)).toList = texts.flatten := by
  induction texts with
  | nil => simp [nonempty]
  | cons text texts ih =>
    rw [nonempty_cons]
    split
    next hempty => simp_all
    next => simp [String.join_cons, ih]

theorem ne_empty_of_mem_chunks (h : chunk ∈ chunks child) : chunk ≠ "" := by
  have hne := (List.mem_filter.mp h).2
  simpa using hne

/-- The chunks together are the text of all bytes. -/
theorem join_chunks (child : Child) : String.join (chunks child) = decodeText child.merged := by
  rw [← String.toList_inj, chunks, chunksFrom, join_nonempty, decodeText, String.toList_ofList,
    Child.merged, List.flatMap_def, Utf8.decode_eq_feedAll, List.flatten_append,
    List.flatten_singleton]

/-- **No chunk ends within a character.** Where one ends, all bytes can be cut so that the chunks on
either side are the text of the bytes there. -/
theorem chunks_split (h : chunks child = before ++ after) :
    ∃ front rest, front ++ rest = child.merged
      ∧ decodeText front = String.join before ∧ decodeText rest = String.join after := by
  obtain ⟨_, _, hmap, rfl, rfl⟩ := List.filter_eq_append_iff.mp h
  obtain ⟨texts, others, hcut, rfl, rfl⟩ := List.map_eq_append_iff.mp hmap
  have hbytes : ∀ bytes texts, decode bytes = texts.flatten →
      decodeText bytes = String.join (nonempty texts) := fun bytes texts h => by
    rw [← String.toList_inj, decodeText, String.toList_ofList, h, join_nonempty]
  rw [Child.merged, List.flatMap_def]
  -- behind the text that the end of the bytes gives nothing is left
  obtain rfl | ⟨others, last, rfl⟩ := others.eq_nil_or_concat
  · refine ⟨_, [], List.append_nil _, hbytes _ texts ?_, hbytes [] [] ?_⟩
    · rw [Utf8.decode_eq_feedAll, ← List.append_nil texts, ← hcut,
        List.flatten_append, List.flatten_singleton]
    · rw [decode, List.flatten_nil]
  · rw [List.concat_eq_append, ← List.append_assoc] at hcut
    obtain ⟨hcut, hlast⟩ := List.append_inj' hcut rfl
    obtain ⟨front, rest, hmerged, hfront, hrest⟩ := Utf8.feedAll_split hcut
    refine ⟨front, rest, hmerged, hbytes _ _ hfront, hbytes _ _ ?_⟩
    rw [hrest, List.concat_eq_append, List.flatten_append, ← hlast, List.flatten_singleton]

/-! ## Writing -/

theorem writeAll_append (h : writeAll host before w = (none, w₁)) :
    writeAll host (before ++ after) w = writeAll host after w₁ := by
  induction before generalizing w with
  | nil =>
    obtain ⟨-, rfl⟩ := Prod.mk.inj h
    rfl
  | cons text before ih =>
    rw [List.cons_append, writeAll]
    rw [writeAll] at h
    split at h
    next => cases h
    next => exact ih h

theorem writeAll_refused (h : writeAll host before w = (none, w₁))
    (hchunk : host.put .output [chunk] w₁ = (some e, w₂)) :
    writeAll host (before ++ chunk :: after) w = (some e, w₂) := by
  rw [writeAll_append h, writeAll, hchunk]

/-- Either all texts are written, or those in front of one that fails. -/
theorem writeAll_cases (host : Host ω) (texts : List String) (w : ω) :
    (∃ w₁, writeAll host texts w = (none, w₁))
    ∨ ∃ before chunk after w₁ e w₂, texts = before ++ chunk :: after
      ∧ writeAll host before w = (none, w₁) ∧ host.put .output [chunk] w₁ = (some e, w₂) := by
  induction texts generalizing w with
  | nil => exact .inl ⟨w, rfl⟩
  | cons text texts ih =>
    match hwrite : host.put .output [text] w with
    | (some e, w') => exact .inr ⟨[], text, texts, w, e, w', rfl, rfl, hwrite⟩
    | (none, w') =>
      have hon : ∀ more, writeAll host (text :: more) w = writeAll host more w' := fun more => by
        rw [writeAll, hwrite]
      obtain ⟨w₁, hall⟩ | ⟨before, chunk, after, w₁, e, w₂, rfl, hbefore, hchunk⟩ := ih w'
      · exact .inl ⟨w₁, by rw [hon, hall]⟩
      · exact .inr ⟨text :: before, chunk, after, w₁, e, w₂, rfl, by rw [hon, hbefore], hchunk⟩

/-- A sink that takes all writes and can always be flushed takes texts. -/
theorem put_never_fails (hwrite : ∀ text w, (host.write .output text w).1 = none)
    (hflush : ∀ w, (host.flush .output w).1 = none) (texts : List String) (w : ω) :
    (host.put .output texts w).1 = none := by
  induction texts generalizing w with
  | nil => exact hflush w
  | cons text texts ih =>
    have hemit : (host.emit .output text w).1 = none := by
      unfold Host.emit
      split
      next => rfl
      next => exact hwrite text w
    rw [Host.put]
    rcases hw : host.emit .output text w with ⟨_ | e, w'⟩
    · exact ih w'
    · rw [hw] at hemit
      cases hemit

theorem writeAll_never_fails (hwrite : ∀ text w, (host.write .output text w).1 = none)
    (hflush : ∀ w, (host.flush .output w).1 = none) (texts : List String) (w : ω) :
    ∃ w₁, writeAll host texts w = (none, w₁) := by
  obtain hall | ⟨_, chunk, _, w₁, e, w₂, -, -, hchunk⟩ := writeAll_cases host texts w
  · exact hall
  · have hnone := put_never_fails hwrite hflush [chunk] w₁
    rw [hchunk] at hnone
    cases hnone

/-- An empty text is not written. -/
theorem writeAll_nonempty_cons (host : Host ω) (text : List Char) (texts : List (List Char))
    (w : ω) : writeAll host (nonempty (text :: texts)) w
      = match host.pass .output (String.ofList text) w with
        | (some e, w) => (some e, w)
        | (none, w) => writeAll host (nonempty texts) w := by
  rw [nonempty_cons, Host.pass]
  by_cases hempty : (String.ofList text).isEmpty
  · simp only [hempty, if_true]
  · simp only [hempty]
    rfl

/-- Forwarding pieces is writing their chunks. -/
theorem forward_eq (host : Host ω) (d : Decoder) (pieces : List (List UInt8)) (w : ω) :
    forward host d pieces w = writeAll host (chunksFrom d pieces) w := by
  induction pieces generalizing d w with
  | nil =>
    rw [forward, chunksFrom, Decoder.feedAll, List.nil_append, writeAll_nonempty_cons]
    split
    next hpass => exact hpass
    next hpass => exact hpass
  | cons piece pieces ih =>
    rw [forward]
    simp only [ih]
    exact (writeAll_nonempty_cons host _ _ w).symm

/-! ## The three ways to run a command -/

/-- The code of an end is the code the command gave, or 128 and the number of the signal. -/
theorem code_toInt (status : Status) : status.code.toInt = match status with
    | .exited code => (code.toNat : Int)
    | .killed signal => 128 + signal.toNat := by
  cases status with
  | exited code => exact Int32.toInt_ofNat_of_lt (by have := code.toNat_lt; omega)
  | killed signal =>
    rw [Status.code, Int32.toInt_ofNat_of_lt (by have := signal.toNat_lt; omega)]
    rfl

theorem stream_eq (hstart : host.start .merged command w = (.ok child, w₁)) :
    stream host command w = match writeAll host (chunks child) w₁ with
      | (some e, w₂) => (.error (.io e), w₂)
      | (none, w₂) => (check child.status, w₂) := by
  rw [stream, start, hstart, chunks, ← forward_eq]
  rfl

theorem capture_eq (hstart : host.start .merged command w = (.ok child, w₁)) :
    capture host command w
      = ((check child.status).map fun _ => decodeText child.merged, w₁) := by
  rw [capture, start, hstart]
  rfl

theorem captureTriple_eq (hstart : host.start .separate command w = (.ok child, w₁)) :
    captureTriple host command w
      = (.ok ⟨decodeText (child.bytesOf .out), decodeText (child.bytesOf .err),
        child.status.code⟩, w₁) := by
  rw [captureTriple, start, hstart]
  rfl

/-- What streaming a command does and what capturing it gives agree on a child: on its output, in
one text or in chunks, and on the code of its end. `w` is the world behind the start of the streamed
command. -/
structure Agreement (host : Host ω) (child : Child) (w : ω) (streamed : Except RunError Unit × ω)
    (captured : Except RunError String) (parts : Except RunError Captured) : Prop where
  /-- The code is the one the command gave, or 128 and the number of the signal. -/
  code : child.status.code.toInt = match child.status with
    | .exited code => (code.toNat : Int)
    | .killed signal => 128 + signal.toNat
  /-- The chunks together are the text of all output. -/
  text : String.join (chunks child) = decodeText child.merged
  nonempty : ∀ chunk ∈ chunks child, chunk ≠ ""
  /-- No chunk ends within a character. -/
  whole : ∀ before after, chunks child = before ++ after →
    ∃ front rest, front ++ rest = child.merged
      ∧ decodeText front = String.join before ∧ decodeText rest = String.join after
  captured : captured = if child.status.code = 0 then .ok (decodeText child.merged)
    else .error (.failed child.status.code)
  triple : ∃ given, parts = .ok given ∧ given.code = child.status.code
  /-- A sink that takes all chunks has them when the command's code decides. -/
  taken : ∀ w₁, writeAll host (chunks child) w = (none, w₁) →
    streamed = (if child.status.code = 0 then .ok () else .error (.failed child.status.code), w₁)
  /-- A sink that fails to write or to flush a chunk has those in front of it, and its failure
  decides. -/
  refused : ∀ before chunk after w₁ e w₂, chunks child = before ++ chunk :: after →
    writeAll host before w = (none, w₁) → host.put .output [chunk] w₁ = (some e, w₂) →
    streamed = (.error (.io e), w₂)
  /-- A sink takes all chunks or fails at one. -/
  outcome : (∃ w₁, writeAll host (chunks child) w = (none, w₁))
    ∨ ∃ before chunk after w₁ e w₂, chunks child = before ++ chunk :: after
      ∧ writeAll host before w = (none, w₁) ∧ host.put .output [chunk] w₁ = (some e, w₂)
  /-- A sink that never fails takes all chunks. -/
  steady : (∀ text w, (host.write .output text w).1 = none) →
    (∀ w, (host.flush .output w).1 = none) →
    ∃ w₁, writeAll host (chunks child) w = (none, w₁)

/-- **Streaming and capturing agree.** Whatever bytes a command writes, however they are cut into
pieces and however it ends, streaming gives the sink the text that capturing gives for the same
bytes, and both, as well as the capturing of the streams one by one, tell the same code. -/
theorem stream_agrees_with_capture {child again apart : Child} {w w₁ v v₁ u u₁ : ω}
    (hstream : host.start .merged command w = (.ok child, w₁))
    (hcapture : host.start .merged command v = (.ok again, v₁))
    (htriple : host.start .separate command u = (.ok apart, u₁))
    (hbytes : again.merged = child.merged) (hagain : again.status = child.status)
    (hapart : apart.status = child.status) :
    Agreement host child w₁ (stream host command w) (capture host command v).1
      (captureTriple host command u).1 where
  code := code_toInt child.status
  text := join_chunks child
  nonempty _ := ne_empty_of_mem_chunks
  whole _ _ := chunks_split
  captured := by
    rw [capture_eq hcapture, hbytes, hagain, check]
    split
    next => rfl
    next => rfl
  triple := ⟨_, by rw [captureTriple_eq htriple], by rw [hapart]⟩
  taken w₂ hall := by
    rw [stream_eq hstream, hall]
    rfl
  refused before chunk after w₂ e w₃ hcut hbefore hchunk := by
    rw [stream_eq hstream, hcut, writeAll_refused hbefore hchunk]
  outcome := writeAll_cases host (chunks child) w₁
  steady hwrite hflush := writeAll_never_fails hwrite hflush (chunks child) w₁

/-- A host whose worlds are the texts that were written. Its command writes two characters, the
second one cut in two if nothing was written before, and ends with code 3. -/
def keeping : Host (List String) where
  shell := "sh"
  start _ _ w := (.ok ⟨if w.isEmpty then [(.out, [0x6F, 0xC3]), (.err, [0xA9])]
    else [(.out, [0x6F, 0xC3, 0xA9])], .exited 3⟩, w)
  write _ text w := (none, w ++ [text])
  flush _ w := (none, w)

/-- Both chunks are written, the second one with the whole character, before the code decides. -/
theorem stream_keeping : writeAll keeping ["o", "é"] [] = (none, ["o", "é"])
    ∧ stream keeping "" [] = (.error (.failed 3), ["o", "é"])
    ∧ (capture keeping "" ["before"]).1 = .error (.failed 3) := by
  have h : Agreement keeping ⟨[(.out, [0x6F, 0xC3]), (.err, [0xA9])], .exited 3⟩ []
      (stream keeping "" []) (capture keeping "" ["before"]).1 (captureTriple keeping "" []).1 :=
    stream_agrees_with_capture rfl rfl rfl rfl rfl rfl
  exact ⟨rfl, h.taken _ rfl, h.captured⟩

end Tilde.Shell
