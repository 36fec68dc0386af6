import Cron.Log.Console

/-! # Lines in plain formats

A plain format is made of texts without a percent sign and of directives that write a datum of the
record as it is. It suits every record: the line is made of the texts with the data in between, and
there is always one where there is room for it. The format of the bare message is plain, and so is
the one that is set where none is asked for.

Main statements: `readPieces_source`, `Record.line?_source`, and `Record.line?_defaultFormat`.
-/

namespace Cron.Log

/-! ## Plain formats -/

/-- A segment of a plain format. -/
inductive Segment where
  /-- Characters that stand for themselves. -/
  | text (cs : List Char)
  /-- The datum of a name, as it is. -/
  | datum (name : List Char)

namespace Segment

/-- The segment as it is written in a format. -/
def source : Segment → List Char
  | text cs => cs
  | datum name => '%' :: '(' :: (name ++ [')', 's'])

/-- The directive of a datum as it is. -/
def plainDirective (name : List Char) : Directive :=
  ⟨some name, .ofChars [], 0, none, .plain⟩

/-- The pieces of a segment. -/
def pieces : Segment → List Piece
  | text cs => cs.map .char
  | datum name => [.directive (plainDirective name)]

/-- **A plain segment** has no percent sign in a text and no parentheses in a name. -/
def Plain : Segment → Prop
  | text cs => '%' ∉ cs
  | datum name => '(' ∉ name ∧ ')' ∉ name

instance : DecidablePred Plain
  | text cs => inferInstanceAs (Decidable ('%' ∉ cs))
  | datum name => inferInstanceAs (Decidable ('(' ∉ name ∧ ')' ∉ name))

/-- What a segment writes for a record, if the datum is its own or its time. -/
def write? (m : Moment) (r : Record) : Segment → Option (List Char)
  | text cs => some cs
  | datum name => (r.datum? m name).map fun d => d.plain.toList

end Segment

/-! ## Reading -/

theorem closeName_of_notMem {name : List Char} (hopen : '(' ∉ name) (hclose : ')' ∉ name)
    (rest : List Char) : closeName 0 (name ++ ')' :: rest) = some (name, rest) := by
  induction name with
  | nil => rfl
  | cons c name ih =>
    obtain ⟨hc, hname⟩ := not_or.1 (mt List.mem_cons.2 hopen)
    obtain ⟨hc', hname'⟩ := not_or.1 (mt List.mem_cons.2 hclose)
    have hend : ¬(c = ')' ∧ 0 = 0) := fun h => hc' h.1.symm
    rw [List.cons_append, closeName, if_neg hend, if_neg (Ne.symm hc), if_neg (Ne.symm hc')]
    dsimp only
    rw [ih hname hname']
    rfl

theorem readPiece_plainDirective {name : List Char} (hopen : '(' ∉ name) (hclose : ')' ∉ name)
    (rest : List Char) : readPiece ('(' :: (name ++ [')', 's'] ++ rest)) =
      some (.directive (Segment.plainDirective name), rest) := by
  rw [readPiece, List.append_assoc]
  simp only [List.cons_append, List.nil_append, closeName_of_notMem hopen hclose]
  rfl

/-- A segment is read for itself, whatever follows it. -/
theorem readPieces_source_append {s : Segment} (h : s.Plain) (rest : List Char) :
    readPieces (s.source ++ rest) = (readPieces rest).map (s.pieces ++ ·) := by
  cases s with
  | text cs => exact readPieces_append h rest
  | datum name => exact readPieces_percent (readPiece_plainDirective h.1 h.2 rest)

/-- **A plain format is read** segment by segment. -/
theorem readPieces_source {segments : List Segment} (h : ∀ s ∈ segments, s.Plain) :
    readPieces (segments.flatMap Segment.source) = some (segments.flatMap Segment.pieces) := by
  induction segments with
  | nil => exact readPieces_nil
  | cons s rest ih =>
    rw [List.forall_mem_cons] at h
    rw [List.flatMap_cons, List.flatMap_cons, readPieces_source_append h.1, ih h.2]
    rfl

/-! ## Writing -/

theorem namesSuffice_pieces (segments : List Segment) :
    namesSuffice (segments.flatMap Segment.pieces) = true := by
  rw [namesSuffice, List.all_eq_true]
  intro d hd
  obtain ⟨piece, hpiece, hdirective⟩ := List.mem_filterMap.1 (List.mem_of_mem_tail hd)
  obtain ⟨s, -, hs⟩ := List.mem_flatMap.1 hpiece
  cases s with
  | text cs =>
    obtain ⟨c, -, rfl⟩ := List.mem_map.1 hs
    cases hdirective
  | datum name =>
    obtain rfl := List.mem_singleton.1 hs
    cases hdirective
    rfl

theorem mapM_write_char (m : Moment) (r : Record) (cs : List Char) :
    (cs.map Piece.char).mapM (Piece.write m r) = some (cs.map fun c => [c]) := by
  induction cs with
  | nil => rfl
  | cons c cs ih =>
    rw [List.map_cons, List.mapM_cons, ih]
    rfl

/-- What the pieces of a segment write is what the segment does. -/
theorem exists_mapM_write_pieces {m : Moment} {r : Record} {s : Segment} {cs : List Char}
    (h : s.write? m r = some cs) :
    ∃ written, s.pieces.mapM (Piece.write m r) = some written ∧ written.flatten = cs := by
  cases s with
  | text cs =>
    cases h
    refine ⟨_, mapM_write_char m r cs, ?_⟩
    rw [← List.flatMap_def, List.flatMap_singleton']
  | datum name =>
    obtain ⟨d, hd, rfl⟩ := Option.map_eq_some_iff.1 h
    refine ⟨[d.plain.toList], ?_, List.append_nil _⟩
    rw [Segment.pieces, List.mapM_cons, Piece.write, Directive.write, Segment.plainDirective]
    simp [hd, Conversion.write, Flags.layText, Flags.ofChars]

/-- Segments that can be written make one text, though their pieces are smaller. -/
theorem exists_mapM_write {m : Moment} {r : Record} {segments : List Segment}
    {written : List (List Char)} (h : segments.mapM (Segment.write? m r) = some written) :
    ∃ texts, (segments.flatMap Segment.pieces).mapM (Piece.write m r) = some texts ∧
      texts.flatten = written.flatten := by
  induction segments generalizing written with
  | nil =>
    cases h
    exact ⟨[], rfl, rfl⟩
  | cons s rest ih =>
    rw [List.mapM_cons] at h
    obtain ⟨cs, hs, h⟩ := Option.bind_eq_some_iff.1 h
    obtain ⟨written, hrest, h⟩ := Option.bind_eq_some_iff.1 h
    cases h
    obtain ⟨texts, htexts, hcs⟩ := exists_mapM_write_pieces hs
    obtain ⟨texts', htexts', hwritten⟩ := ih hrest
    refine ⟨texts ++ texts', ?_, ?_⟩
    · rw [List.flatMap_cons, List.mapM_append, htexts, htexts']
      rfl
    · rw [List.flatten_append, hcs, hwritten, List.flatten_cons]

/-- **A plain format suits a record** that has its data: the line is made of the segments, if there
is room for it. -/
theorem Record.line?_source {m : Moment} {r : Record} {segments : List Segment}
    {written : List (List Char)} (hplain : ∀ s ∈ segments, s.Plain)
    (hwritten : segments.mapM (Segment.write? m r) = some written)
    (hroom : written.flatten.length ≤ m.room) :
    r.line? m (String.ofList (segments.flatMap Segment.source)) =
      some (String.ofList written.flatten) := by
  obtain ⟨texts, htexts, hflatten⟩ := exists_mapM_write hwritten
  rw [← hflatten] at hroom ⊢
  rw [line?, String.toList_ofList, readPieces_source hplain]
  simp only [Option.bind_eq_bind, Option.bind_some, htexts]
  exact if_pos ⟨namesSuffice_pieces segments, hroom⟩

/-! ## Formats -/

theorem ofList_source_message : String.ofList
    ([Segment.datum "message".toList].flatMap Segment.source) = "%(message)s" := by
  decide

/-- The format of the bare message writes the message. -/
theorem Record.line?_message {m : Moment} {r : Record} (hroom : r.message.length ≤ m.room) :
    r.line? m "%(message)s" = some r.message := by
  have hwritten : [r.message.toList].flatten = r.message.toList := List.append_nil _
  rw [← String.length_toList, ← hwritten] at hroom
  rw [← ofList_source_message, line?_source (by decide) rfl hroom, hwritten, String.ofList_toList]

/-- The segments of the format that is set where none is asked for. -/
def defaultSegments : List Segment :=
  [.datum "asctime".toList, .text [' '], .datum "levelname".toList, .text [' ', '['],
    .datum "name".toList, .text [']', ' '], .datum "message".toList]

theorem ofList_source_defaultSegments :
    String.ofList (defaultSegments.flatMap Segment.source) = Console.defaultFormat := by
  decide

/-- The line that the format set by default asks for: the time, the level, the part of the library
and the message. -/
def Record.defaultLine (m : Moment) (r : Record) : String :=
  m.time r ++ " " ++ r.levelName ++ " [" ++ r.logger ++ "] " ++ r.message

theorem Record.toList_defaultLine (m : Moment) (r : Record) : (r.defaultLine m).toList =
    [(m.time r).toList, [' '], r.levelName.toList, [' ', '['], r.logger.toList, [']', ' '],
      r.message.toList].flatten := by
  simp [defaultLine]

/-- **The format set by default** suits every record. -/
theorem Record.line?_defaultFormat {m : Moment} {r : Record}
    (hroom : (r.defaultLine m).length ≤ m.room) :
    r.line? m Console.defaultFormat = some (r.defaultLine m) := by
  rw [← String.length_toList, toList_defaultLine] at hroom
  rw [← ofList_source_defaultSegments, line?_source (by decide) rfl hroom, ← toList_defaultLine,
    String.ofList_toList]

end Cron.Log
