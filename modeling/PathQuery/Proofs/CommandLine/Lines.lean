/-
# Reading an answer

The lines of an answer are documents again.  Whatever a path selects from a document that has been
read is within the bounds of the reader, since it lies in that document; and as long as there are no
floats, either text of it is read as the same value.
-/
import Mathlib
import PathQuery.Proofs.CommandLine.Single
import PathQuery.Proofs.Evaluation.Locality
import PathQuery.Proofs.Json.RoundTrip

namespace PathQuery

namespace CommandLine

/-! ## Documents and lines -/

lemma readDocument_eq_ok_iff {bytes : ByteArray} {document : Json} :
    readDocument bytes = .ok document ↔
      ∃ text, String.fromUTF8? bytes = some text ∧ Json.read? text = some document := by
  unfold readDocument
  split
  · next hbytes => simp [hbytes]
  · next text hbytes =>
    split
    · next htext => simp [hbytes, htext]
    · next value hvalue => simp [hbytes, hvalue]

/-- The bytes of a text are decoded to the text. -/
lemma fromUTF8?_toUTF8 (text : String) : String.fromUTF8? text.toUTF8 = some text :=
  dif_pos text.isValidUTF8

lemma fits_of_readDocument {bytes : ByteArray} {document : Json}
    (h : readDocument bytes = .ok document) : Json.Fits 0 document := by
  obtain ⟨text, -, hread⟩ := readDocument_eq_ok_iff.1 h
  exact Json.fits_of_read? hread

namespace Arguments

/-- The line for a value without floats that fits is read as the value. -/
lemma readDocument_line (arguments : Arguments) {node : Json} (hfits : Json.Fits 0 node)
    (hintegers : node.IntegersOnly) : readDocument (arguments.line node).toUTF8 = .ok node := by
  refine readDocument_eq_ok_iff.2 ⟨_, fromUTF8?_toUTF8 _, ?_⟩
  rw [line]
  split
  · exact Json.read?_toCompact hfits hintegers
  · exact Json.read?_toIndented hfits hintegers

/-- A compact line has no end of a line in it. -/
lemma not_mem_line {arguments : Arguments} (hcompact : arguments.compact = true) {node : Json}
    (hintegers : node.IntegersOnly) :
    '\n' ∉ (arguments.line node).toList ∧ '\r' ∉ (arguments.line node).toList := by
  rw [line, if_pos hcompact, Json.toCompact, String.toList_ofList]
  have hcontrol := Json.printable_compact node hintegers
  exact ⟨fun h => absurd (hcontrol _ h) (by decide), fun h => absurd (hcontrol _ h) (by decide)⟩

/-- The nodes that are answered are nodes of the path, whether one or all are asked for. -/
lemma selectAll_eq_ok_of_nodes {arguments : Arguments} {document : Json} {nodes : List Json}
    (h : arguments.nodes document = .ok nodes) :
    document.selectAll arguments.path arguments.strict = .ok nodes := by
  unfold Arguments.nodes at h
  split at h
  · obtain ⟨match?, honly, rfl⟩ := map_eq_ok.1 h
    exact Json.selectOnly_eq_ok_iff_selectAll.1 honly
  · exact h

/-- What holds of a document and is passed on to children holds of the nodes that are answered. -/
lemma forall_mem_nodes {P : Json → Prop} (hP : Json.Hereditary P) {arguments : Arguments}
    {document : Json} (hdocument : P document) {nodes : List Json}
    (h : arguments.nodes document = .ok nodes) : ∀ node ∈ nodes, P node := by
  obtain ⟨path, -, hall⟩ := Json.selectAll_eq_ok_iff.1 (selectAll_eq_ok_of_nodes h)
  intro node hnode
  have hitem : .ok node ∈ (path.evaluate arguments.strict document).items := by
    rw [Run.all_eq_ok_iff.1 hall]
    exact List.mem_map_of_mem hnode
  exact Path.forall_mem_evaluateFrom hP (fun _ => hdocument) hdocument arguments.strict node
    (Run.ok_mem_items_iff.1 hitem)

/-- **An answer can be read.** Let a document without floats be read and let there be an answer from
it.  Then each line of the answer is read, as a document, as the node that it stands for.  The
answer with the other layout has as many lines, and they are read as the same nodes.  No line with
the compact layout has the end of a line in it. -/
theorem readDocument_lines (arguments : Arguments) {bytes : ByteArray} {document : Json}
    {lines : List String} (hdocument : readDocument bytes = .ok document)
    (hintegers : document.IntegersOnly) (hlines : arguments.lines document = .ok lines) :
    ∃ nodes, arguments.nodes document = .ok nodes ∧
      lines.map (fun line => readDocument line.toUTF8) = nodes.map .ok ∧
      (arguments.compact = true → ∀ line ∈ lines, '\n' ∉ line.toList ∧ '\r' ∉ line.toList) ∧
      ∀ compact, ∃ others,
        ({ arguments with compact := compact } : Arguments).lines document = .ok others ∧
        others.length = lines.length ∧
        others.map (fun line => readDocument line.toUTF8) = nodes.map .ok := by
  obtain ⟨nodes, hnodes, rfl⟩ := lines_eq_ok_iff.1 hlines
  have hfits := forall_mem_nodes (Json.hereditary_fits 0) (fits_of_readDocument hdocument) hnodes
  have hnofloats := forall_mem_nodes Json.hereditary_integersOnly hintegers hnodes
  have hread (layout : Arguments) :
      (nodes.map layout.line).map (fun line => readDocument line.toUTF8) = nodes.map .ok := by
    rw [List.map_map]
    exact List.map_congr_left fun node hnode =>
      layout.readDocument_line (hfits node hnode) (hnofloats node hnode)
  refine ⟨nodes, hnodes, hread arguments, ?_, fun compact => ?_⟩
  · intro hcompact line hline
    obtain ⟨node, hnode, rfl⟩ := List.mem_map.1 hline
    exact not_mem_line hcompact (hnofloats node hnode)
  · let layout : Arguments := { arguments with compact := compact }
    refine ⟨nodes.map layout.line, lines_eq_ok_iff.2 ⟨nodes, hnodes, rfl⟩, ?_, hread layout⟩
    rw [List.length_map, List.length_map]

/-- White space and an escape that is not needed are lost, a control character is escaped again. -/
theorem readDocument_lines_sample :
    let arguments : Arguments := ⟨"$.*", none, true, false, true⟩
    let text := " \x7b\"a\": [18446744073709551615, \"\\u0001\\/\"],\n\"b\": \x7b\x7d\x7d"
    let first := Json.array
      [.number (.integer ⟨18446744073709551615, by decide⟩), .string "\x01/"]
    let second := Json.object []
    let document := Json.object [("a", first), ("b", second)]
    let lines := ["[18446744073709551615,\"\\u0001/\"]", "\x7b\x7d"]
    readDocument text.toUTF8 = .ok document ∧ document.IntegersOnly ∧
      arguments.lines document = .ok lines ∧
      lines.map (fun line => readDocument line.toUTF8) = [.ok first, .ok second] := by
  intro arguments text first second document lines
  have htext : Json.read? text = some document := by cbv
  have hdocument : readDocument text.toUTF8 = .ok document :=
    readDocument_eq_ok_iff.2 ⟨text, fromUTF8?_toUTF8 text, htext⟩
  have hsecond : second.IntegersOnly :=
    Json.integersOnly_iff.2 ⟨fun _ => Json.noConfusion, List.forall_mem_nil _⟩
  have hfirst : first.IntegersOnly := by
    refine Json.integersOnly_iff.2 ⟨fun _ => Json.noConfusion, List.forall_mem_cons.2 ⟨?_, ?_⟩⟩
    · refine Json.integersOnly_iff.2 ⟨fun x h => ?_, List.forall_mem_nil _⟩
      exact Number.noConfusion (Json.number.inj h)
    · refine List.forall_mem_singleton.2 (Json.integersOnly_iff.2 ⟨?_, List.forall_mem_nil _⟩)
      exact fun _ => Json.noConfusion
  have hintegers : document.IntegersOnly :=
    Json.integersOnly_iff.2 ⟨fun _ => Json.noConfusion,
      List.forall_mem_cons.2 ⟨hfirst, List.forall_mem_singleton.2 hsecond⟩⟩
  have hlines : arguments.lines document = .ok lines := by cbv
  have hnodes : arguments.nodes document = .ok [first, second] := by cbv
  obtain ⟨nodes, hsame, hread, -⟩ := readDocument_lines arguments hdocument hintegers hlines
  obtain rfl := Except.ok.inj (hnodes.symm.trans hsame)
  exact ⟨hdocument, hintegers, hlines, hread⟩

end Arguments

end CommandLine

end PathQuery
