/-
Module: Stencil.Proofs.CommandLine.OutputFiles
Purpose: What rendering to a file leaves in it, compared with rendering to the standard output.
Main exports: Codec.Writes, Codec.Joins, RenderRequest, RenderRequest.Renders, run_output_file
-/
import Stencil.Proofs.CommandLine.Endings
import Stencil.Proofs.File.Writing

namespace Stencil

/-! ### Encoding in pieces -/

/-- Pieces of text are written behind others, each with the bytes that it adds. -/
inductive Codec.Writes (codec : Codec) : List String → List String → List UInt8 → Prop
  | nil {before : List String} : codec.Writes before [] []
  | cons {before rest : List String} {piece : String} {here later : List UInt8}
      (first : codec.encode before piece = .ok here)
      (others : codec.Writes (before ++ [piece]) rest later) :
      codec.Writes before (piece :: rest) (here ++ later)

/-- A text gets the same bytes in pieces and as a whole. -/
def Codec.Joins (codec : Codec) : Prop :=
  ∀ pieces octets, codec.encodeWhole (String.join pieces) = .ok octets →
    codec.Writes [] pieces octets

namespace Text.Encoding

variable {encoding : Encoding} {text : List Char} {octets : List UInt8}

/-- All characters of a text have bytes. -/
def Knows (encoding : Encoding) (text : List Char) : Prop :=
  ∀ character ∈ text, character.toNat < encoding.limit

theorem encode_of_knows (knows : encoding.Knows text) :
    encoding.encode text = .ok (text.flatMap encoding.characterBytes) := by
  have known : text.dropWhile (fun character => decide (character.toNat < encoding.limit)) = [] := by
    rw [List.dropWhile_eq_nil_iff]
    intro character member
    exact decide_eq_true (knows character member)
  unfold encode
  simp only [known]

theorem knows_of_encode (encoded : encoding.encode text = .ok octets) : encoding.Knows text := by
  unfold encode at encoded
  simp only at encoded
  split at encoded
  · rename_i known
    rw [List.dropWhile_eq_nil_iff] at known
    intro character member
    exact of_decide_eq_true (known character member)
  · cases encoded

/-- Where two texts have bytes one behind the other, each has its own. -/
theorem encode_append {front rest : List Char}
    (encoded : encoding.encode (front ++ rest) = .ok octets) :
    ∃ first second, encoding.encode front = .ok first ∧ encoding.encode rest = .ok second ∧
      octets = first ++ second := by
  have knows := knows_of_encode encoded
  obtain ⟨here, later⟩ := List.forall_mem_append.mp knows
  rw [encode_of_knows knows] at encoded
  cases encoded
  exact ⟨_, _, encode_of_knows here, encode_of_knows later, List.flatMap_append⟩

theorem encodeText_eq_ok_iff {text : String} :
    encoding.encodeText text = .ok octets ↔ encoding.encode text.toList = .ok octets := by
  unfold encodeText
  cases encoding.encode text.toList with
  | ok found => simp [Except.mapError]
  | error fault => exact iff_of_false nofun nofun

/-- An encoding without memory gives pieces the bytes of the text that they make up. -/
theorem writes_of_encode {pieces : List String} (before : List String)
    (encoded : encoding.encode (String.join pieces).toList = .ok octets) :
    encoding.codec.Writes before pieces octets := by
  induction pieces generalizing before octets with
  | nil =>
      cases encoded
      exact .nil
  | cons piece rest ih =>
      rw [String.join_cons, String.toList_append] at encoded
      obtain ⟨first, second, here, later, rfl⟩ := encode_append encoded
      exact .cons (encodeText_eq_ok_iff.mpr here) (ih _ later)

theorem joins (encoding : Encoding) : encoding.codec.Joins :=
  fun _ _ encoded => writes_of_encode [] (encodeText_eq_ok_iff.mp encoded)

end Text.Encoding

namespace CommandLine

open Config File Text
open Template (RenderError Rendering)

variable {codec : Codec}

theorem encodePieces_of_writes {before pieces : List String} {octets : List UInt8}
    (writes : codec.Writes before pieces octets) (done : List UInt8) :
    encodePieces codec before done pieces = (done ++ octets, none) := by
  induction writes generalizing done with
  | nil =>
      unfold encodePieces
      rw [List.append_nil]
  | cons first others ih =>
      unfold encodePieces
      rw [first, ← List.append_assoc]
      exact ih _

/-- Where the pieces cannot all be written, there is one that cannot, and those in front of it are. -/
theorem encodePieces_of_not_writes {before pieces : List String} (done : List UInt8)
    (unwritten : ∀ octets, ¬ codec.Writes before pieces octets) :
    ∃ front piece after octets error, pieces = front ++ piece :: after ∧
      codec.Writes before front octets ∧ codec.encode (before ++ front) piece = .error error ∧
      encodePieces codec before done pieces = (done ++ octets, some error) := by
  induction pieces generalizing before done with
  | nil => exact absurd .nil (unwritten [])
  | cons piece rest ih =>
      cases here : codec.encode before piece with
      | error error =>
          refine ⟨[], piece, rest, [], error, rfl, .nil, ?_, ?_⟩
          · rw [List.append_nil, here]
          · unfold encodePieces
            rw [here, List.append_nil]
      | ok first =>
          obtain ⟨front, next, after, second, error, rfl, writes, stops, pieced⟩ :=
            ih (done ++ first) fun octets others => unwritten _ (.cons here others)
          refine ⟨piece :: front, next, after, first ++ second, error, rfl, .cons here writes,
            ?_, ?_⟩
          · rw [List.append_cons]
            exact stops
          · unfold encodePieces
            rw [here, ← List.append_assoc]
            exact pieced

/-! ### Requests -/

/-- A template to be rendered on a model, with the settings and the line terminator that are asked
for. -/
structure RenderRequest where
  config : Option String
  template : String
  model : Option String
  terminator : Option String

variable {host : Host} {tree : Tree}

namespace RenderRequest

/-- The invocation that renders to a file, or to the standard output. -/
def invocation (request : RenderRequest) (output : Option String) : Invocation :=
  ⟨request.config, .render request.template request.model output request.terminator⟩

/-- Settings, template and model are there, and this is how the rendering ends. -/
inductive Renders (request : RenderRequest) (host : Host) (tree : Tree) (codec : Codec)
    (result : Except RenderError Unit) (state : Rendering) : Prop
  | intro {settings : Settings} {compiled : Template.CompiledTemplate} {value : Value}
      (loaded : (request.invocation none).settings host tree = .ok settings)
      (prepared : prepareRendering host settings tree request.template request.model =
        .ok (compiled, value))
      (known : host.codec settings.encoding = .ok codec)
      (rendered : compiled.render programResolver settings.lineTerminator.text
        settings.acceptsText value host.world = (result, state))

variable {request : RenderRequest} {result : Except RenderError Unit} {state : Rendering}

/-- Where a file is to be written does not matter for the settings. -/
theorem settings_invocation (request : RenderRequest) (output : Option String) (host : Host)
    (tree : Tree) :
    (request.invocation output).settings host tree =
      (request.invocation none).settings host tree := by
  unfold Invocation.settings invocation
  cases request.terminator <;> rfl

/-- A template that is ready to be rendered has been read in an encoding. -/
theorem codec_of_prepared {settings : Settings} {template : String} {model : Option String}
    {ready : Template.CompiledTemplate × Value}
    (prepared : prepareRendering host settings tree template model = .ok ready) :
    ∃ codec, host.codec settings.encoding = .ok codec := by
  have ends := compileFile_ends host tree settings.encoding (Path.ofText template)
  unfold prepareRendering at prepared
  cases compiled : Template.compileFile host tree settings.encoding (Path.ofText template) with
  | ok template =>
      rw [compiled] at ends
      exact ends
  | error error =>
      rw [compiled] at prepared
      cases prepared

/-- Either all is there to render, or an error ends the run before a file is opened. -/
theorem renders_or_fails (request : RenderRequest) (host : Host) (tree : Tree) :
    (∃ codec result state, request.Renders host tree codec result state) ∨
      ∃ error, ∀ output, (request.invocation output).run host tree = failWith tree error := by
  cases loaded : (request.invocation none).settings host tree with
  | error error =>
      refine .inr ⟨error, fun output => ?_⟩
      rw [Invocation.run, settings_invocation, loaded]
  | ok settings =>
      cases prepared : prepareRendering host settings tree request.template request.model with
      | error error =>
          refine .inr ⟨error, fun output => ?_⟩
          rw [Invocation.run, settings_invocation, loaded]
          simp only [invocation, Command.run, prepared]
      | ok ready =>
          obtain ⟨codec, known⟩ := codec_of_prepared prepared
          exact .inl ⟨codec, _, _, .intro loaded prepared known rfl⟩

/-- On the standard output, a rendering that ends shows all that was written, and one that fails shows
nothing. -/
def shownOutcome (tree : Tree) (output : String) : Except RenderError Unit → Outcome
  | .ok () => { ending := .exit 0, output, tree }
  | .error error => failWith tree (.rendering error)

/-- What is written to a file stays there, whether or not the rendering ends.  A piece that has no
bytes is an error of its own, whatever comes behind it. -/
def filedOutcome (tree : Tree) : Option Raised → Except RenderError Unit → Outcome
  | some error, _ => failWith tree (.raised error)
  | none, .error error => failWith tree (.rendering error)
  | none, .ok () => { ending := .exit 0, tree }

theorem Renders.run_plain (renders : request.Renders host tree codec result state) :
    (request.invocation none).run host tree = shownOutcome tree state.output result := by
  obtain ⟨loaded, prepared, known, rendered⟩ := renders
  rw [Invocation.run, loaded]
  simp only [invocation, Command.run, prepared, renderToOutput, rendered]
  rfl

/-- A piece without bytes is an error that is reported. -/
theorem Renders.encoding_proper (encodes : host.Encodes) {before : List String} {piece : String}
    {error : Raised} (renders : request.Renders host tree codec result state)
    (stops : codec.encode before piece = .error error) : (CommandError.raised error).Proper := by
  obtain ⟨-, -, known, -⟩ := renders
  exact CommandError.raised_proper (.of_value (encodes known stops))

theorem Renders.run_filed {written : String} {place : Place}
    (opened : tree.openPlace (Path.ofText written) = .ok place)
    (renders : request.Renders host tree codec result state) {octets : List UInt8}
    {error? : Option Raised}
    (pieced : encodePieces codec [] [] state.written.toList = (octets, error?)) :
    (request.invocation (some written)).run host tree =
      filedOutcome (tree.put place octets) error? result := by
  obtain ⟨loaded, prepared, known, rendered⟩ := renders
  rw [Invocation.run, settings_invocation, loaded]
  simp only [invocation, Command.run, prepared, renderToFile, opened, known, rendered, pieced]
  rfl

end RenderRequest

/-! ### Both ways of rendering -/

/-- A failed run is the same whatever the files. -/
theorem failWith_tree (tree other : Tree) (error : CommandError) :
    failWith other error = { failWith tree error with tree := other } := by
  unfold failWith
  split <;> rfl

theorem failWith_ending_ne (tree : Tree) (error : CommandError) :
    (failWith tree error).ending ≠ .exit 0 := by
  unfold failWith
  split
  · intro same
    cases same
  · intro same
    cases same

/-- A run has written bytes to the file at a path, and done nothing to other files. -/
structure Outcome.Leaves (outcome : Outcome) (tree : Tree) (written : String) (place : Place)
    (octets : List UInt8) : Prop where
  tree : outcome.tree = tree.put place octets
  read : outcome.tree.read (Path.ofText written) = .ok octets

/-- What a rendering that fails leaves in its file: the bytes of all that was written until then.  If
a piece has none, there is an error of its own, and the bytes of the pieces in front are left. -/
structure LeavesPart (plain filed : Outcome) (tree : Tree) (written : String) (place : Place)
    (codec : Codec) (state : Rendering) : Prop where
  ending : filed.ending = .exit 2
  output : filed.output = ""
  encoded : ∀ octets, codec.Writes [] state.written.toList octets →
    filed.errors = plain.errors ∧ filed.Leaves tree written place octets
  joined : codec.Joins → ∀ octets, codec.encodeWhole state.output = .ok octets →
    filed.errors = plain.errors ∧ filed.Leaves tree written place octets
  unencoded : (∀ octets, ¬ codec.Writes [] state.written.toList octets) →
    ∃ before piece after octets error, state.written.toList = before ++ piece :: after ∧
      codec.Writes [] before octets ∧ codec.encode before piece = .error error ∧
      filed.errors = (CommandError.raised error).report ∧
      filed.Leaves tree written place octets

variable {request : RenderRequest} {state : Rendering} {written : String} {place : Place}

theorem failWith_leaves (opened : tree.openPlace (Path.ofText written) = .ok place)
    (octets : List UInt8) (error : CommandError) :
    (failWith (tree.put place octets) error).Leaves tree written place octets := by
  rw [failWith_tree tree]
  exact ⟨rfl, Tree.read_put opened octets⟩

/-- What an encoding without memory writes is the text as a whole. -/
theorem writes_output (joins : codec.Joins) {octets : List UInt8}
    (encoded : codec.encodeWhole state.output = .ok octets) :
    codec.Writes [] state.written.toList octets :=
  joins _ _ encoded

theorem RenderRequest.Renders.leavesPart (encodes : host.Encodes) {error : RenderError}
    (opened : tree.openPlace (Path.ofText written) = .ok place)
    (renders : request.Renders host tree codec (.error error) state)
    (ended : ((request.invocation none).run host tree).ending = .exit 2) :
    LeavesPart ((request.invocation none).run host tree)
      ((request.invocation (some written)).run host tree) tree written place codec state := by
  have shown : (request.invocation none).run host tree = failWith tree (.rendering error) :=
    renders.run_plain
  rw [shown] at ended ⊢
  by_cases pieces : ∃ octets, codec.Writes [] state.written.toList octets
  · obtain ⟨octets, writes⟩ := pieces
    have pieced := encodePieces_of_writes writes []
    have filed : (request.invocation (some written)).run host tree =
        failWith (tree.put place octets) (.rendering error) := renders.run_filed opened pieced
    have leaves : ∀ others, codec.Writes [] state.written.toList others →
        (failWith (tree.put place octets) (.rendering error)).errors =
            (failWith tree (.rendering error)).errors ∧
          (failWith (tree.put place octets) (.rendering error)).Leaves tree written place others := by
      intro others writes'
      obtain rfl : octets = others :=
        congrArg Prod.fst (pieced.symm.trans (encodePieces_of_writes writes' []))
      refine ⟨?_, failWith_leaves opened _ _⟩
      rw [failWith_tree tree]
    rw [filed]
    refine ⟨?_, ?_, leaves, ?_, fun unwritten => absurd writes (unwritten octets)⟩
    · rw [failWith_tree tree]
      exact ended
    · exact failWith_output _ _
    · exact fun joins others encoded => leaves others (writes_output joins encoded)
  · have unwritten := not_exists.mp pieces
    obtain ⟨before, piece, after, octets, raised, split, writes, stops, pieced⟩ :=
      encodePieces_of_not_writes [] unwritten
    have filed : (request.invocation (some written)).run host tree =
        failWith (tree.put place octets) (.raised raised) := renders.run_filed opened pieced
    have properly := renders.encoding_proper encodes stops
    have leaves := failWith_leaves opened octets (.raised raised)
    rw [failWith_proper properly] at filed leaves
    rw [filed]
    refine ⟨rfl, rfl, fun others writes' => absurd writes' (unwritten others), ?_, ?_⟩
    · exact fun joins others encoded => absurd (writes_output joins encoded) (unwritten others)
    · exact fun _ => ⟨before, piece, after, octets, raised, split, writes, stops, rfl, leaves⟩

/-- A file that can be written gets exactly the bytes of the pieces that the standard output would
get, which for an encoding that joins are those of the text.  Where the run without it fails before
the rendering, the run with it is the same, and the file as it was.  Where the rendering fails, the
file has what was written until then. -/
theorem run_output_file (encodes : host.Encodes) (request : RenderRequest)
    (opened : tree.openPlace (Path.ofText written) = .ok place) :
    let plain := (request.invocation none).run host tree
    let filed := (request.invocation (some written)).run host tree
    (plain.ending = .exit 0 → ∃ codec state,
      request.Renders host tree codec (.ok ()) state ∧ plain.output = state.output ∧
      (∀ octets, codec.Writes [] state.written.toList octets →
        filed.ending = .exit 0 ∧ filed.Leaves tree written place octets) ∧
      (codec.Joins → ∀ octets, codec.encodeWhole plain.output = .ok octets →
        filed.ending = .exit 0 ∧ filed.Leaves tree written place octets)) ∧
    (plain.ending = .exit 2 →
      (filed = plain ∧ plain.tree = tree ∧
        ∀ codec result state, ¬ request.Renders host tree codec result state) ∨
      ∃ codec error state, request.Renders host tree codec (.error error) state ∧
        LeavesPart plain filed tree written place codec state) := by
  intro plain filed
  by_cases starts : ∃ codec result state, request.Renders host tree codec result state
  · obtain ⟨codec, error | finished, state, renders⟩ := starts
    · have ran : plain = failWith tree (.rendering error) := renders.run_plain
      refine ⟨fun ended => ?_, fun ended => .inr ⟨codec, error, state, renders, ?_⟩⟩
      · rw [ran] at ended
        exact absurd ended (failWith_ending_ne tree _)
      · exact renders.leavesPart encodes opened ended
    · have ran : plain = { ending := .exit 0, output := state.output, tree } :=
        renders.run_plain
      have wrote : ∀ octets, codec.Writes [] state.written.toList octets →
          filed.ending = .exit 0 ∧ filed.Leaves tree written place octets := by
        intro octets writes
        have filed_eq : filed = { ending := .exit 0, tree := tree.put place octets } :=
          renders.run_filed opened (encodePieces_of_writes writes [])
        rw [filed_eq]
        exact ⟨rfl, rfl, Tree.read_put opened octets⟩
      rw [ran]
      refine ⟨fun _ => ⟨codec, state, renders, rfl, wrote, ?_⟩, nofun⟩
      exact fun joins octets encoded => wrote octets (writes_output joins encoded)
  · obtain ⟨error, same⟩ := (request.renders_or_fails host tree).resolve_left starts
    have ran : plain = failWith tree error := same none
    have ran' : filed = failWith tree error := same _
    refine ⟨fun ended => ?_, fun _ => .inl ⟨ran'.trans ran.symm, ?_, ?_⟩⟩
    · rw [ran] at ended
      exact absurd ended (failWith_ending_ne tree _)
    · rw [ran, failWith_tree tree]
    · exact fun codec result state renders => starts ⟨codec, result, state, renders⟩

/-- A directory with templates that fail behind their first line, models for them, and settings with a
small encoding. -/
def partFiles : Tree where
  files :=
    [(["loop.tpl"], "<% for x in items %>\n${x}\n<% /for %>\n".toUTF8.toList),
      (["items.yaml"], "items: [1, ~]\n".toUTF8.toList),
      (["two.tpl"], "${x}\n${y}\n".toUTF8.toList), (["names.yaml"], "x: é\n".toUTF8.toList),
      (["ascii.yaml"], "encoding: ascii\n".toUTF8.toList), (["empty.tpl"], []),
      (["marked.yaml"], "encoding: utf-8-sig\n".toUTF8.toList)]

/-- A loop over a list whose second item is null. -/
def loopRequest : RenderRequest := ⟨none, "loop.tpl", some "items.yaml", none⟩

/-- A name that the small encoding has no bytes for, and then one that is not there. -/
def asciiRequest : RenderRequest := ⟨some "ascii.yaml", "two.tpl", some "names.yaml", none⟩

theorem output_opened : partFiles.openPlace (Path.ofText "out.txt") = .ok ["out.txt"] := by
  decide +kernel

/-- The exit code of a run that has one. -/
def Ending.code? : Ending → Option Nat
  | .exit code => some code
  | _ => none

theorem Ending.eq_exit {ending : Ending} {code : Nat} (same : ending.code? = some code) :
    ending = .exit code := by
  cases ending with
  | exit other =>
      cases same
      rfl
  | _ => cases same

theorem loop_fails : ((loopRequest.invocation none).run commonHost partFiles).ending = .exit 2 := by
  apply Ending.eq_exit
  decide +kernel

/-- The first item stays in the file. -/
theorem loop_leaves :
    ((loopRequest.invocation (some "out.txt")).run commonHost partFiles).tree.read (Path.ofText "out.txt") =
      .ok "1\n".toUTF8.toList := by
  decide +kernel

theorem output_missing : partFiles.read (Path.ofText "out.txt") = .error .notFound := by
  decide +kernel

/-- The second item fails, and the first one stays in the file. -/
theorem run_output_file_null_item :
    commonHost.Encodes ∧
      partFiles.openPlace (Path.ofText "out.txt") = .ok ["out.txt"] ∧
      ((loopRequest.invocation none).run commonHost partFiles).ending = .exit 2 ∧
      ∃ codec error state,
        loopRequest.Renders commonHost partFiles codec (.error error) state ∧
        LeavesPart ((loopRequest.invocation none).run commonHost partFiles)
          ((loopRequest.invocation (some "out.txt")).run commonHost partFiles) partFiles "out.txt"
          ["out.txt"] codec state := by
  refine ⟨commonHost_reliable.encodes, output_opened, loop_fails, ?_⟩
  rcases (run_output_file commonHost_reliable.encodes loopRequest output_opened).2 loop_fails with
    ⟨same, kept, -⟩ | part
  · have leaves := loop_leaves
    rw [same, kept, output_missing] at leaves
    cases leaves
  · exact part

/-- The mark that some programs put in front of a text in UTF-8. -/
def byteOrderMark : List UInt8 := [0xef, 0xbb, 0xbf]

/-- UTF-8 with a mark in front of the first piece, even of an empty text as a whole. -/
def markedCodec : Codec where
  decode octets :=
    if byteOrderMark.isPrefixOf octets then Encoding.utf8.codec.decode (octets.drop 3)
    else Encoding.utf8.codec.decode octets
  encode before piece := do
    let octets ← Encoding.utf8.encodeText piece
    pure (if before.isEmpty then byteOrderMark ++ octets else octets)
  encodeWhole text := do
    let octets ← Encoding.utf8.encodeText text
    pure (byteOrderMark ++ octets)

/-- The known host with one more encoding. -/
def markedHost : Host where
  codec name := if name == "utf-8-sig" then .ok markedCodec else commonHost.codec name
  document := commonHost.document
  builtin := commonHost.builtin

theorem markedHost_reliable : markedHost.Reliable where
  decodes {name codec octets text error} known failed := by
    unfold markedHost at known
    simp only at known
    split at known
    · cases known
      have utf8 : commonHost.codec "utf-8" = .ok Encoding.utf8.codec := rfl
      unfold markedCodec at failed
      simp only at failed
      split at failed
      · exact commonHost_reliable.decodes utf8 failed
      · exact commonHost_reliable.decodes utf8 failed
    · exact commonHost_reliable.decodes known failed
  encodes {name codec before piece error} known failed := by
    unfold markedHost at known
    simp only at known
    split at known
    · cases known
      apply @Encoding.encodeText_fails Encoding.utf8 piece
      unfold markedCodec at failed
      simp only at failed
      cases encoded : Encoding.utf8.encodeText piece with
      | ok octets =>
          rw [encoded] at failed
          cases failed
      | error raised =>
          rw [encoded] at failed
          cases failed
          rfl
    · exact commonHost_reliable.encodes known failed
  documents := commonHost_reliable.documents
  members := commonHost_reliable.members
  written := commonHost_reliable.written

/-- An empty template. -/
def emptyRequest : RenderRequest := ⟨some "marked.yaml", "empty.tpl", none, none⟩

/-- So a failed run does not leave every file as it was, where the text until the failure has no bytes
not even the message is the same, and a text without pieces is written without the mark that the text
has as a whole. -/
theorem output_file_not_restored :
    (¬ ∀ (request : RenderRequest) (tree : Tree) (written : String) (place : Place),
      tree.openPlace (Path.ofText written) = .ok place →
        ((request.invocation none).run commonHost tree).ending = .exit 2 →
          ((request.invocation (some written)).run commonHost tree).tree.read
              (Path.ofText written) = tree.read (Path.ofText written)) ∧
    (¬ ∀ (request : RenderRequest) (tree : Tree) (written : String) (place : Place),
      tree.openPlace (Path.ofText written) = .ok place →
        ((request.invocation none).run commonHost tree).ending = .exit 2 →
          ((request.invocation (some written)).run commonHost tree).errors =
            ((request.invocation none).run commonHost tree).errors) ∧
    markedHost.Reliable ∧ ¬ ∀ (request : RenderRequest) (tree : Tree) (written : String)
      (place : Place) (settings : Settings) (codec : Codec) (octets : List UInt8),
      tree.openPlace (Path.ofText written) = .ok place →
        (request.invocation none).settings markedHost tree = .ok settings →
        markedHost.codec settings.encoding = .ok codec →
        ((request.invocation none).run markedHost tree).ending = .exit 0 →
        codec.encodeWhole ((request.invocation none).run markedHost tree).output = .ok octets →
          ((request.invocation (some written)).run markedHost tree).tree.read
            (Path.ofText written) = .ok octets := by
  refine ⟨?_, ?_, markedHost_reliable, ?_⟩
  · intro every
    have same := every loopRequest partFiles "out.txt" ["out.txt"] output_opened loop_fails
    rw [loop_leaves, output_missing] at same
    cases same
  · intro every
    have fails : ((asciiRequest.invocation none).run commonHost partFiles).ending = .exit 2 := by
      apply Ending.eq_exit
      decide +kernel
    have other : ((asciiRequest.invocation (some "out.txt")).run commonHost partFiles).errors ≠
        ((asciiRequest.invocation none).run commonHost partFiles).errors := by
      decide +kernel
    exact other (every asciiRequest partFiles "out.txt" ["out.txt"] output_opened fails)
  · intro every
    have loaded : (emptyRequest.invocation none).settings markedHost partFiles =
        .ok { encoding := "utf-8-sig" } := by
      decide +kernel
    have ends : ((emptyRequest.invocation none).run markedHost partFiles).ending = .exit 0 := by
      apply Ending.eq_exit
      decide +kernel
    have marked : markedCodec.encodeWhole
        ((emptyRequest.invocation none).run markedHost partFiles).output = .ok byteOrderMark := by
      decide +kernel
    have empty : ((emptyRequest.invocation (some "out.txt")).run markedHost partFiles).tree.read
        (Path.ofText "out.txt") = .ok [] := by
      decide +kernel
    have same := every emptyRequest partFiles "out.txt" ["out.txt"] _ markedCodec byteOrderMark
      output_opened loaded rfl ends marked
    rw [empty] at same
    cases same

end CommandLine

end Stencil
