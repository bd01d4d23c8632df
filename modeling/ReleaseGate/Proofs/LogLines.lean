import ReleaseGate.Host.Machine
import ReleaseGate.Log.File
import ReleaseGate.Proofs.Bytes
import ReleaseGate.Proofs.Pieces

/-! What a log file holds after some calls of the log, line by line. -/

namespace ReleaseGate.Text

/-- The byte that ends a line. -/
def lineEnd : UInt8 := 10

/-- The lines of some bytes, as far as they are ended. -/
def lines (content : List UInt8) : List (List UInt8) := (content.splitOn lineEnd).dropLast

theorem utf8EncodeChar_lineEnd : String.utf8EncodeChar '\n' = [lineEnd] := by decide

/-- No other character has the byte that ends a line. -/
theorem lineEnd_not_mem_utf8EncodeChar {c : Char} (h : c ≠ '\n') :
    lineEnd ∉ String.utf8EncodeChar c := by
  have code : c.val.toNat ≠ 10 := fun same => h (Char.toNat_inj.mp same)
  have byte {n : Nat} : lineEnd = UInt8.ofNat n ↔ n % 256 = 10 := by
    rw [← UInt8.toNat_inj, UInt8.toNat_ofNat', eq_comm]
    rfl
  fun_cases String.utf8EncodeChar c with
  | case1 v small =>
    simp only [List.mem_singleton, byte]
    omega
  -- Every byte of a longer code is at least 128.
  | case2 | case3 | case4 =>
    simp only [List.mem_cons, List.not_mem_nil, or_false, byte]
    omega

/-- The bytes of a text are parted into lines as the text is. -/
theorem splitOn_bytes (cs : List Char) :
    (bytes cs).splitOn lineEnd = (pieces '\n' cs).map bytes := by
  induction cs with
  | nil => rfl
  | cons c cs ih =>
    rw [pieces]
    by_cases ends : c = '\n'
    · rw [if_pos ends, bytes, List.flatMap_cons, ends, utf8EncodeChar_lineEnd,
        List.singleton_append, List.splitOn_cons_eq_if_modifyHead, if_pos (by simp)]
      exact congrArg ([] :: ·) ih
    · rw [if_neg ends, bytes, List.flatMap_cons,
        splitOn_append_right (lineEnd_not_mem_utf8EncodeChar ends)]
      change ((bytes cs).splitOn lineEnd).modifyHead _ = _
      have parts : pieces '\n' cs ≠ [] := pieces_ne_nil cs
      obtain ⟨first, rest, parted⟩ := List.exists_cons_of_ne_nil parts
      rw [ih, parted]
      rfl

theorem lines_append {old : List UInt8} (ended : ∀ last ∈ old.getLast?, last = lineEnd)
    (added : List UInt8) : lines (old ++ added) = lines old ++ lines added := by
  cases last : old.getLast? with
  | none =>
    rw [List.getLast?_eq_none_iff.mp last]
    rfl
  | some final =>
    obtain ⟨front, rfl⟩ := List.getLast?_eq_some_iff.mp last
    obtain rfl : final = lineEnd := ended final last
    unfold lines
    rw [List.append_assoc, List.singleton_append, List.splitOn_append_cons_self,
      List.splitOn_append_cons_self, List.dropLast_append_of_ne_nil (List.splitOn_ne_nil _ _)]
    simp

/-- A text that is put behind a line end is a file of its lines. -/
theorem lines_bytes_append_lineEnd (cs : List Char) :
    lines (bytes cs ++ [lineEnd]) = (pieces '\n' cs).map bytes := by
  rw [lines, List.splitOn_append_cons_self, splitOn_bytes]
  simp

theorem lineEnd_mem_bytes {cs : List Char} (h : '\n' ∈ cs) : lineEnd ∈ bytes cs :=
  List.mem_flatMap.mpr ⟨'\n', h, List.mem_of_mem_head? rfl⟩

theorem lineEnd_not_mem_of_mem_lines {content line : List UInt8} (h : line ∈ lines content) :
    lineEnd ∉ line :=
  not_mem_of_mem_splitOn ((List.dropLast_sublist _).subset h)

end ReleaseGate.Text

namespace ReleaseGate.Files.Tree

theorem hasFolder_putFile (tree : Tree) (place other : String) (content : ByteArray) :
    (tree.putFile place content).hasFolder other = tree.hasFolder other := rfl

theorem lookup_putFile (tree : Tree) (place other : String) (content : ByteArray) :
    (tree.putFile place content).files.lookup other =
      if other = place then some content else tree.files.lookup other := by
  rw [putFile, Dict.lookup_cons]
  split
  · rfl
  · rename_i different
    exact Dict.lookup_filter_ne _ different

/-- A file that is changed is found where it was. -/
theorem follow_putFile {tree : Tree} {pieces : List (List Char)} {start place : String}
    {content : ByteArray} (found : tree.follow start pieces = .ok (.file place content))
    (new : ByteArray) :
    (tree.putFile place new).follow start pieces = .ok (.file place new) := by
  fun_induction tree.follow start pieces with
  | case1 | case4 | case7 | case8 | case9 => cases found
  | case2 start piece rest silent ih =>
    rw [follow, if_pos silent]
    exact ih found
  | case3 start rest speaks ih =>
    rw [follow, if_neg speaks, if_pos rfl]
    exact ih found
  | case5 start piece rest speaks down name next short folder ih =>
    rw [follow, if_neg speaks, if_neg down]
    dsimp only
    rw [if_neg short, hasFolder_putFile, if_pos folder]
    exact ih found
  | case6 start piece rest speaks down name next short other content there last =>
    obtain ⟨rfl, rfl⟩ := Spot.file.inj (Except.ok.inj found)
    rw [follow, if_neg speaks, if_neg down]
    dsimp only
    rw [if_neg short, hasFolder_putFile, if_neg other, lookup_putFile, if_pos rfl]
    exact if_pos last

theorem openAt_eq_file_iff {tree : Tree} {path : String} {content : ByteArray} :
    tree.openAt path = .ok (.file content) ↔
      ∃ place, tree.find path = .ok (.file place content) := by
  unfold openAt
  split <;> simp_all

theorem find_putFile {tree : Tree} {path place : String} {content : ByteArray}
    (found : tree.find path = .ok (.file place content)) (new : ByteArray) :
    (tree.putFile place new).find path = .ok (.file place new) := by
  unfold find at found ⊢
  split
  · rename_i empty
    rw [if_pos empty] at found
    cases found
  · rename_i filled
    rw [if_neg filled] at found
    split at found
    · cases found
    · exact follow_putFile found new

/-- A file that can be opened can be changed. -/
theorem modify_of_open {tree : Tree} {path : String} {content : ByteArray}
    (opened : tree.openAt path = .ok (.file content)) (change : ByteArray → ByteArray) :
    ∃ after, tree.modify path change = .ok after ∧
      after.openAt path = .ok (.file (change content)) := by
  obtain ⟨place, found⟩ := openAt_eq_file_iff.mp opened
  refine ⟨tree.putFile place (change content), ?_, openAt_eq_file_iff.mpr ⟨place, ?_⟩⟩
  · rw [modify, found]
  · exact find_putFile found _

end ReleaseGate.Files.Tree

namespace ReleaseGate.Instant

theorem lineBreak_not_mem_padLeft (width n : Nat) : '\n' ∉ (padLeft width n).toList := by
  rw [padLeft, String.toList_ofList, List.mem_append, not_or]
  constructor
  · intro inside
    cases List.eq_of_mem_replicate inside
  · intro inside
    exact absurd (Nat.isDigit_of_mem_toDigits (by decide) (by decide) inside) (by decide)

theorem lineBreak_not_mem_yearText (year : Int) : '\n' ∉ (yearText year).toList := by
  unfold yearText
  split
  · exact lineBreak_not_mem_padLeft _ _
  · rw [String.toList_append, List.mem_append, not_or]
    refine ⟨?_, lineBreak_not_mem_padLeft _ _⟩
    split <;> decide

theorem lineBreak_not_mem_stamp (time : Instant) : '\n' ∉ time.stamp.toList := by
  simp [stamp, dateText, timeText, lineBreak_not_mem_padLeft, lineBreak_not_mem_yearText]

end ReleaseGate.Instant

namespace ReleaseGate.Log

open Text (bytes lineEnd lines)

/-- A call of a log, at a time, for a request if it is in the scope of one. -/
structure Call where
  time : Instant
  requestId : Option String := none
  entry : Entry

namespace Call

variable {call : Call}

/-- The entry that reaches the log. -/
def logged (call : Call) : Entry :=
  match call.requestId with
  | none => call.entry
  | some requestId => call.entry.tagged requestId

/-- What stands in front of the message: the time, the level, the code, and the request if there is
one. -/
def head (call : Call) : String :=
  call.time.stamp ++ " [" ++ call.entry.level.name ++ "] [" ++ call.entry.code ++ "] " ++
    match call.requestId with
    | none => ""
    | some requestId => "req=" ++ requestId ++ " "

def line (call : Call) : String := call.head ++ call.entry.message

/-- The lines that the call makes: its own, and one more for every line break in its message. Only
the first has what stands in front of the message. -/
def made (call : Call) : List (List UInt8) :=
  ((Text.pieces '\n' call.entry.message.toList).modifyHead (call.head.toList ++ ·)).map bytes

/-- No line breaks but in the message. -/
def Plain (call : Call) : Prop :=
  '\n' ∉ call.entry.code.toList ∧ ∀ requestId ∈ call.requestId, '\n' ∉ requestId.toList

theorem line_logged (call : Call) : call.logged.line call.time.stamp = call.line := by
  obtain ⟨time, _ | requestId, entry⟩ := call
  all_goals
    simp only [logged, line, head, Entry.line, Entry.text, Entry.tagged, ← String.toList_inj,
      String.toList_append, List.append_assoc]
    rfl

theorem lineBreak_not_mem_name (level : Level) : '\n' ∉ level.name.toList := by
  cases level <;> decide

theorem Plain.lineBreak_not_mem_head (plain : call.Plain) : '\n' ∉ call.head.toList := by
  obtain ⟨code, named⟩ := plain
  obtain ⟨time, requestId, entry⟩ := call
  cases requestId with
  | none => simp_all [head, Instant.lineBreak_not_mem_stamp, lineBreak_not_mem_name]
  | some requestId => simp_all [head, Instant.lineBreak_not_mem_stamp, lineBreak_not_mem_name]

/-- The text of a plain call is a file of the lines that the call makes. -/
theorem Plain.lines_line (plain : call.Plain) :
    lines (bytes call.line.toList ++ [lineEnd]) = call.made := by
  rw [Text.lines_bytes_append_lineEnd, line, String.toList_append,
    Text.pieces_append_right plain.lineBreak_not_mem_head]
  rfl

theorem made_of_one_line (single : '\n' ∉ call.entry.message.toList) :
    call.made = [bytes call.line.toList] := by
  rw [made, Text.pieces_eq_self single, line, String.toList_append]
  rfl

end Call

namespace File

/-- The log after some calls. -/
def keep (network : Http.Message → Machine.Reception) (file : File) (calls : List Call) :
    StateM Machine Unit :=
  calls.forM fun call => file.write (Machine.host call.time network) call.logged

variable (network : Http.Message → Machine.Reception) {file : File} {path : String}
  {machine : Machine} {old : ByteArray} {calls : List Call}

/-- An entry is reported if the log reports it, and is added to the end of the file. -/
theorem run_write {now : Instant} {entry : Entry} {files : Files.Tree}
    (kept : file.path = some path)
    (changed : machine.files.modify path (· ++ (entry.line now.stamp ++ "\n").toUTF8) = .ok files) :
    (file.write (Machine.host now network) entry).run machine =
      ((), { machine with
        files
        reported := machine.reported ++
          if file.reports entry then entry.line now.stamp ++ "\n" else "" }) := by
  unfold write
  simp only [kept, Machine.host, Machine.change, pure_bind]
  generalize (entry.line now.stamp ++ "\n").toUTF8 = added at changed ⊢
  cases file.reports entry <;> simp [changed] <;> rfl

theorem write_of_open (kept : file.path = some path)
    (opened : machine.files.openAt path = .ok (.file old)) (now : Instant) (entry : Entry) :
    ((file.write (Machine.host now network) entry).run machine).2.files.openAt path =
      .ok (.file (old ++ (entry.line now.stamp ++ "\n").toUTF8)) := by
  obtain ⟨files, changed, found⟩ :=
    Files.Tree.modify_of_open opened (· ++ (entry.line now.stamp ++ "\n").toUTF8)
  rw [run_write network kept changed]
  exact found

theorem keep_of_open (calls : List Call) (kept : file.path = some path)
    (opened : machine.files.openAt path = .ok (.file old)) :
    ∃ content, ((file.keep network calls).run machine).2.files.openAt path =
        .ok (.file content) ∧
      content.data.toList = old.data.toList ++
        calls.flatMap fun call => bytes call.line.toList ++ [lineEnd] := by
  induction calls generalizing machine old with
  | nil => exact ⟨old, opened, by simp⟩
  | cons call calls ih =>
    obtain ⟨content, found, grown⟩ :=
      ih (write_of_open network kept opened call.time call.logged)
    refine ⟨content, found, ?_⟩
    have added : (call.line ++ "\n").toUTF8.data.toList = bytes call.line.toList ++ [lineEnd] := by
      rw [Text.toList_toUTF8, String.toList_append, Text.bytes_append]
      rfl
    rw [grown, call.line_logged, ByteArray.data_append, Array.toList_append, added,
      List.flatMap_cons, List.append_assoc]

/-- The lines of a file that some plain calls are put behind are its own and those of the calls. -/
theorem lines_of_calls (plain : ∀ call ∈ calls, call.Plain) {old : List UInt8}
    (ended : ∀ last ∈ old.getLast?, last = lineEnd) :
    lines (old ++ calls.flatMap fun call => bytes call.line.toList ++ [lineEnd]) =
      lines old ++ calls.flatMap Call.made := by
  induction calls generalizing old with
  | nil => simp
  | cons call calls ih =>
    obtain ⟨first, later⟩ := List.forall_mem_cons.mp plain
    rw [List.flatMap_cons, ← List.append_assoc, ih later (by simp), Text.lines_append ended,
      first.lines_line, List.flatMap_cons, List.append_assoc]

/-- Calls of a log whose file has no unfinished line leave in it, behind what it held, the text of
each call and a line end. That is one line for each call, of what stands in front of its message and
the message, unless a message has a line break, which begins a line of its own. -/
theorem lines_of_kept_calls (kept : file.path = some path)
    (opened : machine.files.openAt path = .ok (.file old))
    (ended : ∀ last ∈ old.data.toList.getLast?, last = lineEnd)
    (plain : ∀ call ∈ calls, call.Plain) :
    ∃ content, ((file.keep network calls).run machine).2.files.openAt path =
        .ok (.file content) ∧
      content.data.toList = old.data.toList ++
        calls.flatMap (fun call => bytes call.line.toList ++ [lineEnd]) ∧
      lines content.data.toList = lines old.data.toList ++ calls.flatMap Call.made ∧
      (lines content.data.toList =
          lines old.data.toList ++ calls.map (fun call => bytes call.line.toList) ↔
        ∀ call ∈ calls, '\n' ∉ call.entry.message.toList) := by
  obtain ⟨content, found, grown⟩ := keep_of_open network calls kept opened
  have parted : lines content.data.toList = lines old.data.toList ++ calls.flatMap Call.made := by
    rw [grown, lines_of_calls plain ended]
  refine ⟨content, found, grown, parted, ?_⟩
  constructor
  · intro single call inside broken
    have whole : bytes call.line.toList ∈ lines content.data.toList := by
      rw [single]
      exact List.mem_append_right _ (List.mem_map_of_mem inside)
    refine Text.lineEnd_not_mem_of_mem_lines whole (Text.lineEnd_mem_bytes ?_)
    rw [Call.line, String.toList_append]
    exact List.mem_append_right _ broken
  · intro single
    have each : calls.flatMap Call.made = calls.flatMap fun call => [bytes call.line.toList] :=
      List.flatMap_congr fun call inside => Call.made_of_one_line (single call inside)
    rw [parted, each, List.map_eq_flatMap]

/-- A machine with an empty log. -/
def fresh : Machine := { files := { files := [("/gate.log", .empty)] } }

def gateLog : File := { path := some "/gate.log" }

def failed (message : String) : Call := ⟨⟨0⟩, some "req-1", ⟨.error, "GATEWAY", message⟩⟩

def starting : Call := { time := ⟨0⟩, entry := ⟨.info, "GATEWAY", "persona trial"⟩ }

theorem plain_failed (message : String) : (failed message).Plain := by
  refine ⟨(by decide : '\n' ∉ "GATEWAY".toList), ?_⟩
  rintro requestId ⟨⟩
  decide

theorem kept_gateLog : gateLog.path = some "/gate.log" := rfl

theorem opened_fresh : fresh.files.openAt "/gate.log" = .ok (.file .empty) := by rfl

theorem lines_of_gateLog :
    ∃ content,
      ((gateLog.keep (fun _ => .unreachable) [starting, failed "no email"]).run fresh).2.files.openAt
          "/gate.log" = .ok (.file content) ∧
        lines content.data.toList =
          ["1970-01-01T00:00:00Z [INFO] [GATEWAY] persona trial",
            "1970-01-01T00:00:00Z [ERROR] [GATEWAY] req=req-1 no email"].map
            fun line => bytes line.toList := by
  have plain : ∀ call ∈ [starting, failed "no email"], call.Plain := by
    rintro call inside
    obtain rfl | rfl : call = starting ∨ call = failed "no email" := by simpa using inside
    · exact ⟨by decide +kernel, by rintro _ ⟨⟩⟩
    · exact plain_failed _
  obtain ⟨content, found, -, -, single⟩ :=
    lines_of_kept_calls (fun _ => .unreachable) kept_gateLog opened_fresh (by rintro _ ⟨⟩) plain
  refine ⟨content, found, (single.mpr (by decide +kernel)).trans ?_⟩
  decide +kernel

/-- A message with a line break makes a line that no call made. -/
theorem break_forges_line :
    (failed "no email\n1970-01-01T00:00:00Z [INFO] [LICENSE] valid").Plain ∧
    ∃ content,
      ((gateLog.keep (fun _ => .unreachable)
          [failed "no email\n1970-01-01T00:00:00Z [INFO] [LICENSE] valid"]).run
          fresh).2.files.openAt "/gate.log" = .ok (.file content) ∧
        lines content.data.toList =
          ["1970-01-01T00:00:00Z [ERROR] [GATEWAY] req=req-1 no email",
            "1970-01-01T00:00:00Z [INFO] [LICENSE] valid"].map fun line => bytes line.toList := by
  have plain := plain_failed "no email\n1970-01-01T00:00:00Z [INFO] [LICENSE] valid"
  obtain ⟨content, found, grown⟩ :=
    keep_of_open (fun _ => .unreachable)
      [failed "no email\n1970-01-01T00:00:00Z [INFO] [LICENSE] valid"] kept_gateLog opened_fresh
  refine ⟨plain, content, found, ?_⟩
  rw [grown, lines_of_calls (by simpa using plain) (by rintro _ ⟨⟩)]
  decide +kernel

end File

end ReleaseGate.Log
