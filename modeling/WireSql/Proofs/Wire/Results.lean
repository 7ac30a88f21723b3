import WireSql.Proofs.Wire.Marks

/-!
# `WireSql.Proofs.Wire.Results`: a client reads back the result that was sent

`Client.readReply` reads one reply off the front of the frames that a server sends, the way a client does:
the first byte tells success and failure from a result, the first payload says how many definitions follow,
and the rows go on up to the first payload that passes the client's test for their end.

Main statement: `result_reads_back`. What a client reads from the frames of a result is the result, and
nothing of what follows is taken for a part of it. The format is unambiguous only through the ranges of its
first bytes: a row never begins like a packet that reports an error, and where it begins like the packet
that ends the rows (`head_rowPayload`), it holds a cell too long for any frame.
-/

namespace WireSql.Wire

/-! ## What a client reads -/

namespace Client

/-- A reply to a command, as a client reads it. -/
inductive Received where
  | ok (p : OkPacket)
  | err (p : ErrPacket)
  /-- A result: the names of its columns, its rows, and the sequence number of its last frame. -/
  | result (columns : List String) (rows : List (List Cell)) (last : UInt8)
deriving DecidableEq

/-- The test for the end of the rows. -/
def EndsRows (payload : Bytes) : Prop := payload.head? = some eofMark ∧ payload.length < 9

instance (payload : Bytes) : Decidable (EndsRows payload) := inferInstanceAs (Decidable (_ ∧ _))

/-- Read the definitions of a number of columns. -/
def readColumns : Nat → List Frame → Option (List String × List Frame)
  | 0, frames => some ([], frames)
  | _ + 1, [] => none
  | n + 1, frame :: frames => do
    let name ← columnName? frame.payload
    let (names, frames) ← readColumns n frames
    return (name :: names, frames)

/-- Pass the packet that ends the columns. -/
def passEnd : List Frame → Option (List Frame)
  | [] => none
  | frame :: frames => if frame.payload.head? = some eofMark then some frames else none

/-- Read rows up to their end, with the sequence number that it has. -/
def readRows (columns : Nat) : List Frame → Option (List (List Cell) × UInt8 × List Frame)
  | [] => none
  | frame :: frames =>
    if EndsRows frame.payload then some ([], frame.sequence, frames)
    else do
      let row ← rowCells? frame.payload columns
      let (rows, last, frames) ← readRows columns frames
      return (row :: rows, last, frames)

/-- Read a result behind its first payload. -/
def readResult (deprecateEof : Bool) (columns : Nat) (frames : List Frame) :
    Option (Received × List Frame) := do
  let (names, frames) ← readColumns columns frames
  let frames ← if deprecateEof then some frames else passEnd frames
  let (rows, last, frames) ← readRows columns frames
  return (.result names rows last, frames)

/-- **Read one reply off the front of the frames that a server sends.** -/
def readReply (deprecateEof : Bool) : List Frame → Option (Received × List Frame)
  | [] => none
  | frame :: frames =>
    if frame.payload.head? = some okMark then
      (OkPacket.parse? frame.payload).map fun p => (.ok p, frames)
    else if frame.payload.head? = some errMark then
      (ErrPacket.parse? frame.payload).map fun p => (.err p, frames)
    else do
      let columns ← Read.prefixedInt.onBytes frame.payload
      readResult deprecateEof columns.toNat frames

end Client

/-! ## Frames -/

/-- Sequence numbers count on, modulo 256. -/
theorem add_one_add_ofNat (first : UInt8) (n : Nat) :
    first + 1 + UInt8.ofNat n = first + UInt8.ofNat (n + 1) := by
  rw [UInt8.add_assoc, UInt8.add_comm 1, UInt8.ofNat_add]
  rfl

theorem frames_append (first : UInt8) (earlier later : List Bytes) :
    frames first (earlier ++ later) =
      frames first earlier ++ frames (first + UInt8.ofNat earlier.length) later := by
  induction earlier generalizing first with
  | nil => simp [frames]
  | cons p earlier ih =>
    rw [List.cons_append, frames, frames, ih, List.cons_append, List.length_cons, add_one_add_ofNat]

/-- **Sequence numbers go up by one from frame to frame**, modulo 256. -/
theorem sequence_of_getElem?_frames {first : UInt8} {payloads : List Bytes} {i : Nat} {frame : Frame}
    (h : (frames first payloads)[i]? = some frame) : frame.sequence = first + UInt8.ofNat i := by
  induction payloads generalizing first i with
  | nil => cases h
  | cons p payloads ih =>
    cases i with
    | zero =>
      obtain rfl := Option.some.inj h
      simp
    | succ i =>
      rw [frames, List.getElem?_cons_succ] at h
      rw [ih h, add_one_add_ofNat]

theorem payload_frames (first : UInt8) (payloads : List Bytes) :
    (frames first payloads).map Frame.payload = payloads := by
  induction payloads generalizing first with
  | nil => rfl
  | cons p payloads ih => rw [frames, List.map_cons, ih]

/-! ## Payloads by their first byte -/

/-- A payload that begins neither like success nor like an error begins a result. -/
theorem parse_response_of_head {payload : Bytes} {mark : UInt8} (h : payload.head? = some mark)
    (hok : mark ≠ okMark) (herr : mark ≠ errMark) :
    Packet.parse payload .response = .ok (.data payload) := by
  unfold Packet.parse
  dsimp only
  rw [h]
  dsimp only
  rw [beq_false_of_ne hok, beq_false_of_ne herr]
  rfl

/-- A payload that begins neither like an end nor like an error is a row. -/
theorem parse_terminator_of_head {payload : Bytes} {mark : UInt8} (h : payload.head? = some mark)
    (heof : mark ≠ eofMark) (herr : mark ≠ errMark) (deprecateEof : Bool) :
    Packet.parse payload (.terminator deprecateEof) = .ok (.data payload) := by
  unfold Packet.parse
  dsimp only
  rw [h]
  dsimp only
  rw [beq_false_of_ne heof, beq_false_of_ne herr]
  rfl

/-- A payload that does not begin like an end ends no rows. -/
theorem not_endsRows_of_head {payload : Bytes} {mark : UInt8} (h : payload.head? = some mark)
    (heof : mark ≠ eofMark) : ¬ Client.EndsRows payload := by
  intro hends
  have hmark : some mark = some eofMark := h.symm.trans hends.1
  exact heof (Option.some.inj hmark)

/-- The packet that ends a part of a result, read as what the session takes it for. -/
theorem parse_terminator_eof (deprecateEof : Bool) :
    Packet.parse (EofPacket.payload {}) (.terminator deprecateEof) =
      .ok (if deprecateEof then .ok {} else .eof {}) := by
  cases deprecateEof <;> rfl

theorem endsRows_eof : Client.EndsRows (EofPacket.payload {}) := by decide

/-! ## The number of columns -/

/-- **The first payload of a result is the number of its columns**, and begins neither like success nor
like an error. -/
theorem head_count {n : Nat} (hpos : n ≠ 0) (hword : n < UInt64.size) :
    ∃ mark, (ofPrefixedInt (UInt64.ofNat n)).head? = some mark ∧ mark ≠ okMark ∧ mark ≠ errMark := by
  obtain ⟨mark, rest, h, -, herr, hzero, -⟩ := (prefixedForm (UInt64.ofNat n)).exists_cons
  refine ⟨mark, by rw [h]; rfl, fun hok => hpos ?_, herr⟩
  rw [← UInt64.toNat_ofNat_of_lt hword]
  exact hzero hok

theorem onBytes_count (n : UInt64) : Read.prefixedInt.onBytes (ofPrefixedInt n) = some n := by
  have h := Read.onBytes_of_finds (Read.finds_prefixedInt n) []
  rwa [List.append_nil] at h

/-! ## Columns -/

/-- **The definition of a column tells its name.** -/
theorem columnName?_columnPayload {name : String} (h : (columnPayload name).length ≤ maxPayload) :
    columnName? (columnPayload name) = some name := by
  have hsplit : ∃ tail, columnPayload name =
      (ofPrefixedText "def" ++ (ofPrefixedText "" ++ (ofPrefixedText "" ++ (ofPrefixedText "" ++
        ofPrefixedText name)))) ++ tail := by
    unfold columnPayload Field.encodeAll
    simp only [List.flatMap_cons, Field.encode, List.append_assoc]
    exact ⟨_, rfl⟩
  obtain ⟨tail, htail⟩ := hsplit
  have hname : (Text.encode name).length < UInt64.size := by
    rw [htail] at h
    simp only [ofPrefixedText, ofPrefixedBytes, List.length_append] at h
    simp only [maxPayload] at h
    have hsize : 0xFFFFFF < UInt64.size := by decide
    omega
  rw [htail]
  refine Read.onBytes_of_finds ?_ tail
  -- catalog, schema and table are passed over
  have hempty : Read.Finds Read.prefixedBytes (ofPrefixedText "") (Text.encode "") :=
    Read.finds_prefixedBytes (by decide)
  have hdef : Read.Finds Read.prefixedBytes (ofPrefixedText "def") (Text.encode "def") :=
    Read.finds_prefixedBytes (by decide)
  exact Read.finds_bind hdef (Read.finds_bind hempty (Read.finds_bind hempty
    (Read.finds_bind hempty (Read.finds_prefixedText hname))))

/-! ## Rows -/

theorem cellLength_le (c : Cell) : Read.cellLength c ≤ (ofCell c).length := by
  cases c with
  | none => exact Nat.zero_le _
  | some s =>
    show (Text.encode s).length ≤ (ofPrefixedInt _ ++ Text.encode s).length
    rw [List.length_append]
    exact Nat.le_add_left _ _

theorem finds_readCells {cells : List Cell} (h : ∀ c ∈ cells, Read.cellLength c < UInt64.size) :
    Read.Finds (readCells cells.length) (rowPayload cells) cells := by
  induction cells with
  | nil => exact Read.finds_pure []
  | cons c cells ih =>
    have hcell : Read.cellLength c < UInt64.size := h c List.mem_cons_self
    have hrest : Read.Finds (readCells cells.length) (rowPayload cells) cells :=
      ih fun d hd => h d (List.mem_cons_of_mem c hd)
    exact Read.finds_bind (Read.finds_cell hcell) (Read.finds_map hrest (c :: ·))

/-- **A row tells its cells**, as far as a word can count their bytes. -/
theorem rowCells?_of_cells {cells : List Cell} (h : ∀ c ∈ cells, Read.cellLength c < UInt64.size) :
    rowCells? (rowPayload cells) cells.length = some cells := by
  have hread := Read.onBytes_of_finds (finds_readCells h) []
  rwa [List.append_nil] at hread

/-- A row that fits a frame tells its cells. -/
theorem rowCells?_rowPayload {cells : List Cell} (h : (rowPayload cells).length ≤ maxPayload) :
    rowCells? (rowPayload cells) cells.length = some cells := by
  refine rowCells?_of_cells fun c hc => ?_
  have hle : (ofCell c).length ≤ (rowPayload cells).length :=
    (List.sublist_flatten_of_mem (List.mem_map_of_mem hc)).length_le
  have hcell := cellLength_le c
  have hsize : maxPayload < UInt64.size := by decide
  omega

/-- **A row that fits a frame begins neither like an end nor like an error.** It would take a cell that no
frame holds to begin it with the mark of an end. -/
theorem head_rowPayload {cells : List Cell} (hne : cells ≠ [])
    (h : (rowPayload cells).length ≤ maxPayload) :
    ∃ mark, (rowPayload cells).head? = some mark ∧ mark ≠ eofMark ∧ mark ≠ errMark := by
  cases cells with
  | nil => exact absurd rfl hne
  | cons c cells =>
    cases c with
    | none => exact ⟨nullMark, rfl, by decide, by decide⟩
    | some s =>
      obtain ⟨mark, rest, hcons, -, herr, -, hlong⟩ :=
        (prefixedForm (UInt64.ofNat (Text.encode s).length)).exists_cons
      have hrow : rowPayload (some s :: cells) =
          mark :: (rest ++ Text.encode s ++ rowPayload cells) := by
        show ofPrefixedInt _ ++ Text.encode s ++ rowPayload cells = _
        rw [hcons]
        rfl
      refine ⟨mark, by rw [hrow]; rfl, fun heof => ?_, herr⟩
      -- behind this mark stand at least as many bytes as it announces
      have hmany := hlong heof
      rw [UInt64.toNat_ofNat'] at hmany
      have hmod : (Text.encode s).length % 2 ^ 64 ≤ (Text.encode s).length := Nat.mod_le _ _
      rw [hrow] at h
      simp only [List.length_cons, List.length_append, maxPayload] at h
      omega

/-! ## The parts of a result -/

/-- The frames of a result by the part they play. -/
structure ResultParts where
  /-- The number of columns. -/
  count : Frame
  columns : List Frame
  /-- What stands between the columns and the rows. -/
  between : List Frame
  rows : List Frame
  ending : Frame

/-- All frames of a result, in order. -/
def ResultParts.all (p : ResultParts) : List Frame :=
  p.count :: (p.columns ++ (p.between ++ (p.rows ++ [p.ending])))

/-- **What each part of a result tells a client.** -/
structure ResultParts.Tell (p : ResultParts) (r : ResultSet) (deprecateEof : Bool) : Prop where
  /-- The first payload is the number of columns. -/
  count : (Read.prefixedInt.onBytes p.count.payload).map UInt64.toNat = some r.columns.length
  /-- It is taken neither for success nor for an error. -/
  begins : Packet.parse p.count.payload .response = .ok (.data p.count.payload)
  /-- Every definition tells the name of its column. -/
  columns : p.columns.map (fun frame => columnName? frame.payload) = r.columns.map some
  /-- The columns have an end of their own exactly where the session does not do without. -/
  between : p.between.map (fun frame => Packet.parse frame.payload (.terminator deprecateEof)) =
    if deprecateEof then [] else [.ok (.eof {})]
  /-- Every row tells its cells. -/
  rows : p.rows.map (fun frame => rowCells? frame.payload r.columns.length) = r.rows.map some
  /-- No row is taken for the end of the rows. -/
  goesOn : ∀ frame ∈ p.rows, ¬ Client.EndsRows frame.payload ∧
    Packet.parse frame.payload (.terminator deprecateEof) = .ok (.data frame.payload)
  /-- The end is taken for one, in the form that the session knows. -/
  ends : Client.EndsRows p.ending.payload ∧
    Packet.parse p.ending.payload (.terminator deprecateEof) =
      .ok (if deprecateEof then .ok {} else .eof {})

theorem map_frames {α : Type} (f : Bytes → α) (first : UInt8) (payloads : List Bytes) :
    (frames first payloads).map (fun frame => f frame.payload) = payloads.map f := by
  rw [← payload_frames first payloads, List.map_map, payload_frames]
  rfl

/-- What is asked of the payloads of a result, which any frames that can be sent make good. -/
structure Fits (r : ResultSet) : Prop where
  columns : ∀ name ∈ r.columns, (columnPayload name).length ≤ maxPayload
  rows : ∀ row ∈ r.rows, (rowPayload row).length ≤ maxPayload

variable {r : ResultSet} {capabilities : UInt32} {first : UInt8}

theorem resultFrames_of_columns (capabilities : UInt32) (first : UInt8) (hcolumns : r.columns ≠ []) :
    resultFrames r capabilities first =
      frames first (resultPayloads r (Capability.has capabilities Capability.deprecateEof)) := by
  have hcommand : r.isCommand = false := List.isEmpty_eq_false_iff.mpr hcolumns
  unfold resultFrames
  rw [hcommand, if_neg Bool.false_ne_true]

theorem fits_of_frames (hcolumns : r.columns ≠ [])
    (h : ∀ frame ∈ resultFrames r capabilities first, frame.payload.length ≤ maxPayload) :
    Fits r := by
  rw [resultFrames_of_columns capabilities first hcolumns] at h
  generalize Capability.has capabilities Capability.deprecateEof = deprecateEof at h
  have hpayload : ∀ payload ∈ resultPayloads r deprecateEof, payload.length ≤ maxPayload := by
    intro payload hp
    rw [← payload_frames first (resultPayloads r deprecateEof)] at hp
    obtain ⟨frame, hframe, rfl⟩ := List.mem_map.mp hp
    exact h frame hframe
  constructor
  · intro name hname
    refine hpayload _ (List.mem_append_left _ (List.mem_cons_of_mem _ ?_))
    exact List.mem_map_of_mem hname
  · intro row hrow
    refine hpayload _ (List.mem_append_right _ (List.mem_append_right _ (List.mem_append_left _ ?_)))
    exact List.mem_map_of_mem hrow

/-! ## Reading a result -/

theorem readColumns_frames {names : List String}
    (h : ∀ name ∈ names, (columnPayload name).length ≤ maxPayload) (first : UInt8)
    (later : List Frame) :
    Client.readColumns names.length (frames first (names.map columnPayload) ++ later) =
      some (names, later) := by
  induction names generalizing first with
  | nil => rfl
  | cons name names ih =>
    have hname := columnName?_columnPayload (h name List.mem_cons_self)
    have hrest := ih (fun n hn => h n (List.mem_cons_of_mem _ hn)) (first + 1)
    rw [List.map_cons, frames, List.cons_append, List.length_cons, Client.readColumns]
    dsimp only
    rw [hname, hrest]
    rfl

theorem readRows_frames {rows : List (List Cell)} {columns : Nat} (hpos : columns ≠ 0)
    (haligned : ∀ row ∈ rows, row.length = columns)
    (h : ∀ row ∈ rows, (rowPayload row).length ≤ maxPayload) (first : UInt8) (later : List Frame) :
    Client.readRows columns
        (frames first (rows.map rowPayload ++ [EofPacket.payload {}]) ++ later) =
      some (rows, first + UInt8.ofNat rows.length, later) := by
  induction rows generalizing first with
  | nil =>
    show (if Client.EndsRows (EofPacket.payload {}) then some ([], first, later) else _) = _
    rw [if_pos endsRows_eof]
    simp
  | cons row rows ih =>
    obtain rfl := haligned row List.mem_cons_self
    have hne : row ≠ [] := fun hnil => hpos (by rw [hnil]; rfl)
    have hfits := h row List.mem_cons_self
    obtain ⟨mark, hhead, heof, -⟩ := head_rowPayload hne hfits
    have hgoes : ¬ Client.EndsRows (rowPayload row) := not_endsRows_of_head hhead heof
    have hrest := ih (fun r hr => haligned r (List.mem_cons_of_mem _ hr))
      (fun r hr => h r (List.mem_cons_of_mem _ hr)) (first + 1)
    have hlast : first + 1 + UInt8.ofNat rows.length = first + UInt8.ofNat (row :: rows).length :=
      add_one_add_ofNat first rows.length
    rw [List.map_cons, List.cons_append, frames, List.cons_append, Client.readRows]
    dsimp only
    rw [if_neg hgoes, rowCells?_rowPayload hfits, hrest, hlast]
    rfl

/-- The frames of a result between its columns and whatever follows it are its rows, behind the end of the
columns where there is one. -/
theorem readResult_frames (hfits : Fits r) (hcolumns : r.columns ≠ []) (deprecateEof : Bool)
    (first : UInt8) (later : List Frame) :
    Client.readResult deprecateEof r.columns.length
        (frames first (r.columns.map columnPayload ++
          ((if deprecateEof then [] else [EofPacket.payload {}]) ++
            (r.rows.map rowPayload ++ [EofPacket.payload {}]))) ++ later) =
      some (.result r.columns r.rows (first + UInt8.ofNat (r.columns.length +
        (if deprecateEof then 0 else 1) + r.rows.length)), later) := by
  have hpos : r.columns.length ≠ 0 := fun h => hcolumns (List.length_eq_zero_iff.mp h)
  have hadd : ∀ a b : Nat, first + UInt8.ofNat a + UInt8.ofNat b = first + UInt8.ofNat (a + b) := by
    intro a b
    rw [UInt8.add_assoc, UInt8.ofNat_add]
  -- the rows are read from any number on
  have hrows : ∀ n : Nat, Client.readRows r.columns.length (frames (first + UInt8.ofNat n)
        (r.rows.map rowPayload ++ [EofPacket.payload {}]) ++ later) =
      some (r.rows, first + UInt8.ofNat (n + r.rows.length), later) := by
    intro n
    rw [readRows_frames hpos r.aligned hfits.rows, hadd]
  unfold Client.readResult
  rw [frames_append, List.append_assoc, readColumns_frames hfits.columns, List.length_map]
  simp only [Option.bind_eq_bind, Option.bind_some]
  cases deprecateEof with
  | true =>
    simp only [if_true, List.nil_append, hrows]
    rfl
  | false =>
    have hnext : first + UInt8.ofNat r.columns.length + 1 = first + UInt8.ofNat (r.columns.length + 1) :=
      hadd r.columns.length 1
    have hpass : Client.passEnd (frames (first + UInt8.ofNat r.columns.length)
          (EofPacket.payload {} :: (r.rows.map rowPayload ++ [EofPacket.payload {}])) ++ later) =
        some (frames (first + UInt8.ofNat (r.columns.length + 1))
          (r.rows.map rowPayload ++ [EofPacket.payload {}]) ++ later) :=
      hnext ▸ rfl
    simp only [Bool.false_eq_true, if_false, List.cons_append, List.nil_append, hpass, hrows,
      Option.bind_some]
    rfl

/-- A client reads the result off the front of its frames, and stands behind them. -/
theorem readReply_frames (hfits : Fits r) (hcolumns : r.columns ≠ [])
    (hword : r.columns.length < UInt64.size) (deprecateEof : Bool) (first : UInt8)
    (later : List Frame) :
    Client.readReply deprecateEof (frames first (resultPayloads r deprecateEof) ++ later) =
      some (.result r.columns r.rows (first + UInt8.ofNat (1 + r.columns.length +
        (if deprecateEof then 0 else 1) + r.rows.length)), later) := by
  have hpos : r.columns.length ≠ 0 := fun h => hcolumns (List.length_eq_zero_iff.mp h)
  obtain ⟨mark, hhead, hok, herr⟩ := head_count hpos hword
  have hnotOk : ¬ (ofPrefixedInt (UInt64.ofNat r.columns.length)).head? = some okMark := by
    rw [hhead]
    exact fun h => hok (Option.some.inj h)
  have hnotErr : ¬ (ofPrefixedInt (UInt64.ofNat r.columns.length)).head? = some errMark := by
    rw [hhead]
    exact fun h => herr (Option.some.inj h)
  have hrest := readResult_frames hfits hcolumns deprecateEof (first + 1) later
  rw [add_one_add_ofNat] at hrest
  have hlast : 1 + r.columns.length + (if deprecateEof = true then 0 else 1) + r.rows.length =
      r.columns.length + (if deprecateEof = true then 0 else 1) + r.rows.length + 1 := by
    omega
  rw [hlast]
  unfold resultPayloads
  rw [List.cons_append, frames, List.cons_append, Client.readReply]
  dsimp only
  rw [if_neg hnotOk, if_neg hnotErr, onBytes_count]
  show Client.readResult deprecateEof (UInt64.ofNat r.columns.length).toNat _ = _
  have hcount : (UInt64.ofNat r.columns.length).toNat = r.columns.length :=
    UInt64.toNat_ofNat_of_lt hword
  rw [hcount]
  exact hrest

/-- No row of a result is taken for the end of the rows. -/
theorem row_goesOn (hfits : Fits r) (hcolumns : r.columns ≠ []) {row : List Cell} (hrow : row ∈ r.rows)
    (deprecateEof : Bool) :
    ¬ Client.EndsRows (rowPayload row) ∧
      Packet.parse (rowPayload row) (.terminator deprecateEof) = .ok (.data (rowPayload row)) := by
  have hne : row ≠ [] := by
    intro hnil
    have hlength := r.aligned row hrow
    rw [hnil] at hlength
    exact hcolumns (List.length_eq_zero_iff.mp hlength.symm)
  obtain ⟨mark, hhead, heof, herr⟩ := head_rowPayload hne (hfits.rows row hrow)
  exact ⟨not_endsRows_of_head hhead heof, parse_terminator_of_head hhead heof herr deprecateEof⟩

/-- The frames of a result are made of parts that tell what they should. -/
theorem exists_parts (hfits : Fits r) (hcolumns : r.columns ≠ [])
    (hword : r.columns.length < UInt64.size) (deprecateEof : Bool) (first : UInt8) :
    ∃ p : ResultParts, p.all = frames first (resultPayloads r deprecateEof) ∧ p.Tell r deprecateEof := by
  have hpos : r.columns.length ≠ 0 := fun h => hcolumns (List.length_eq_zero_iff.mp h)
  obtain ⟨mark, hhead, hok, herr⟩ := head_count hpos hword
  unfold resultPayloads
  rw [List.cons_append, frames, frames_append, frames_append, frames_append]
  refine ⟨⟨_, _, _, _, _⟩, rfl, ?_⟩
  constructor
  case count =>
    rw [onBytes_count, Option.map_some]
    exact congrArg some (UInt64.toNat_ofNat_of_lt hword)
  case begins => exact parse_response_of_head hhead hok herr
  case columns =>
    rw [map_frames (fun payload => columnName? payload), List.map_map]
    refine List.map_congr_left fun name hname => ?_
    exact columnName?_columnPayload (hfits.columns name hname)
  case between =>
    rw [map_frames (fun payload => Packet.parse payload (.terminator deprecateEof))]
    cases deprecateEof <;> rfl
  case rows =>
    rw [map_frames (fun payload => rowCells? payload r.columns.length), List.map_map]
    refine List.map_congr_left fun row hrow => ?_
    show rowCells? (rowPayload row) r.columns.length = some row
    rw [← r.aligned row hrow]
    exact rowCells?_rowPayload (hfits.rows row hrow)
  case goesOn =>
    intro frame hframe
    obtain ⟨row, hrow, hpayload⟩ := List.mem_map.mp (payload_mem_of_mem_frames hframe)
    rw [← hpayload]
    exact row_goesOn hfits hcolumns hrow deprecateEof
  case ends => exact ⟨endsRows_eof, parse_terminator_eof deprecateEof⟩

/-! ## Results that are read back -/

/-- **A result that is read back.** -/
structure ReadsBack (r : ResultSet) (capabilities : UInt32) (first : UInt8) : Prop where
  /-- A client reads the result and stands behind it, whatever follows. -/
  reply : ∀ later,
    Client.readReply (Capability.has capabilities Capability.deprecateEof)
        (resultFrames r capabilities first ++ later) =
      some (.result r.columns r.rows (first + UInt8.ofNat (1 + r.columns.length +
        (if Capability.has capabilities Capability.deprecateEof then 0 else 1) + r.rows.length)),
        later)
  /-- There are as many frames as the result has parts. -/
  length : (resultFrames r capabilities first).length =
    1 + r.columns.length + (if Capability.has capabilities Capability.deprecateEof then 0 else 1) +
      r.rows.length + 1
  /-- The sequence numbers go up by one, modulo 256. -/
  sequence : ∀ i frame, (resultFrames r capabilities first)[i]? = some frame →
    frame.sequence = first + UInt8.ofNat i
  /-- Every frame tells its part of the result. -/
  parts : ∃ p : ResultParts, p.all = resultFrames r capabilities first ∧
    p.Tell r (Capability.has capabilities Capability.deprecateEof)

/-- **A result with columns that fits its frames is read back**, in sessions with and without a packet
between columns and rows. The number of columns travels as a word, so it has to be one. -/
theorem result_reads_back (r : ResultSet) (capabilities : UInt32) (first : UInt8)
    (hcolumns : r.columns ≠ []) (hword : r.columns.length < UInt64.size)
    (hfits : ∀ frame ∈ resultFrames r capabilities first, frame.payload.length ≤ maxPayload) :
    ReadsBack r capabilities first := by
  have hpayloads : Fits r := fits_of_frames hcolumns hfits
  have hframes := resultFrames_of_columns capabilities first hcolumns
  generalize hd : Capability.has capabilities Capability.deprecateEof = deprecateEof at hframes
  constructor
  case reply =>
    intro later
    rw [hframes, hd]
    exact readReply_frames hpayloads hcolumns hword deprecateEof first later
  case length =>
    rw [hframes, length_frames, hd]
    unfold resultPayloads
    cases deprecateEof <;> simp <;> omega
  case sequence =>
    intro i frame h
    rw [hframes] at h
    exact sequence_of_getElem?_frames h
  case parts =>
    rw [hframes, hd]
    exact exists_parts hpayloads hcolumns hword deprecateEof first

/-- A result with a column without a name, with NULL beside an empty text and with a text outside ASCII is
read back in a session with a packet between columns and rows, its last number being past 255. -/
theorem result_reads_back_with_null :
    let r : ResultSet := .ofRows ["", "é"] [[none, some ""], [some "日", some "\x00"]]
    (∀ frame ∈ resultFrames r 0 253, frame.payload.length ≤ maxPayload) ∧ ReadsBack r 0 253 := by
  intro r
  have hfits : ∀ frame ∈ resultFrames r 0 253, frame.payload.length ≤ maxPayload := by
    decide +kernel
  exact ⟨hfits, result_reads_back r 0 253 (by decide) (by decide) hfits⟩

end WireSql.Wire
