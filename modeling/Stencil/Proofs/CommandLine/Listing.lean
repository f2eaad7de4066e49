import Mathlib.Tactic.SplitIfs
import Stencil.CommandLine.Run
import Stencil.Proofs.Directive.Distinct
import Stencil.Proofs.Text.Cut

namespace Stencil

namespace Text

/-- The lines of a text. A line feed ends a line, and so does the end of the text if something
stands behind the last line feed. -/
def lines : Text → List Text
  | [] => []
  | c :: rest =>
    if c = '\n' then [] :: lines rest
    else
      match lines rest with
      | [] => [[c]]
      | line :: others => (c :: line) :: others

theorem lines_append_cons {line : Text} (hline : '\n' ∉ line) (rest : Text) :
    lines (line ++ '\n' :: rest) = line :: lines rest := by
  induction line with
  | nil => rfl
  | cons c line ih =>
    obtain ⟨hne, hline⟩ := not_or.mp (mt List.mem_cons.mpr hline)
    rw [List.cons_append, lines, if_neg (Ne.symm hne), ih hline]

/-- Each line feed ends a line. -/
theorem count_le_length_lines (t : Text) : t.count '\n' ≤ (lines t).length := by
  induction t with
  | nil => exact Nat.le_refl 0
  | cons c t ih =>
    rw [lines]
    split
    · next heq =>
      rw [heq, List.count_cons_self, List.length_cons]
      exact Nat.succ_le_succ ih
    · next hne =>
      rw [List.count_cons_of_ne hne]
      split
      · next hnil =>
        rw [hnil] at ih
        exact Nat.le_succ_of_le ih
      · next line others hlines =>
        rw [hlines] at ih
        exact ih

/-- Texts that are each ended by a line feed. -/
def unlines (rows : List Text) : Text :=
  rows.flatMap (· ++ ['\n'])

theorem lines_unlines {rows : List Text} (hrows : ∀ row ∈ rows, '\n' ∉ row) :
    lines (unlines rows) = rows := by
  induction rows with
  | nil => rfl
  | cons row rows ih =>
    obtain ⟨hrow, hrows⟩ := List.forall_mem_cons.mp hrows
    rw [unlines, List.flatMap_cons, List.append_assoc, List.singleton_append,
      lines_append_cons hrow, ← unlines, ih hrows]

theorem count_unlines (rows : List Text) :
    (unlines rows).count '\n' = rows.length + rows.flatten.count '\n' := by
  induction rows with
  | nil => rfl
  | cons row rows ih =>
    rw [unlines, List.flatMap_cons, ← unlines, List.count_append, List.count_append, ih,
      List.flatten_cons, List.count_append, List.count_singleton_self, List.length_cons]
    omega

/-- A text that is broken makes more lines than there are texts. -/
theorem length_lines_unlines_iff {rows : List Text} :
    (lines (unlines rows)).length = rows.length ↔ ∀ row ∈ rows, '\n' ∉ row := by
  constructor
  · intro hlength
    have hcount := count_le_length_lines (unlines rows)
    rw [count_unlines, hlength] at hcount
    have hnot : '\n' ∉ rows.flatten := List.count_eq_zero.mp (by omega)
    exact fun row hrow hmem => hnot (List.mem_flatten.mpr ⟨row, hrow, hmem⟩)
  · intro hrows
    rw [lines_unlines hrows]

theorem lines_unlines_iff {rows : List Text} :
    lines (unlines rows) = rows ↔ ∀ row ∈ rows, '\n' ∉ row :=
  ⟨fun hlines => length_lines_unlines_iff.mp (congrArg List.length hlines), lines_unlines⟩

theorem mem_toDigits {base n : Nat} {c : Char} (hbase : 1 < base) (hmem : c ∈ Nat.toDigits base n) :
    ∃ digit < base, c = Nat.digitChar digit := by
  induction n using Nat.strongRecOn with
  | _ n ih =>
    rw [Nat.toDigits_eq_if hbase] at hmem
    split at hmem
    · next hlt => exact ⟨n, hlt, List.mem_singleton.mp hmem⟩
    · next hle =>
      rcases List.mem_append.mp hmem with hmem | hmem
      · exact ih (n / base) (Nat.div_lt_self (by omega) hbase) hmem
      · exact ⟨n % base, Nat.mod_lt _ (by omega), List.mem_singleton.mp hmem⟩

theorem not_mem_hex (n : Nat) : '\n' ∉ hex n := by
  intro hmem
  obtain ⟨digit, hdigit, heq⟩ := mem_toDigits (by decide) hmem
  have hnot : ∀ digit < 16, '\n' ≠ Nat.digitChar digit := by decide
  exact hnot digit hdigit heq

theorem not_mem_quotedChar (c : Char) : '\n' ∉ quotedChar c := by
  rw [quotedChar]
  split_ifs with hzero htab hreturn hfeed hquote hbackslash hunprintable
  · decide
  · decide
  · decide
  · decide
  · decide
  · decide
  · simp [not_mem_hex]
  · exact fun hmem => hfeed (List.mem_singleton.mp hmem).symm

/-- A text between quotes is on one line, whatever it is. -/
theorem not_mem_quoted (t : Text) : '\n' ∉ quoted t := by
  simp [quoted, not_mem_quotedChar]

end Text

/-- The names that a target holds, those of parameters included. -/
def Target.names : Target → List Text
  | .bare name => [name]
  | .call plugin method params => plugin :: method :: params.map Prod.fst

namespace CommandLine

/-- A parameter breaks a line only by its key. -/
theorem mem_showParam_iff {param : Text × ParamValue} :
    '\n' ∈ showParam param ↔ '\n' ∈ param.1 := by
  obtain ⟨key, value | _⟩ := param
  · simp [showParam, Text.not_mem_quoted]
  · simp [showParam]

theorem not_mem_describe_iff {target : Target} :
    '\n' ∉ describe target ↔ ∀ name ∈ target.names, '\n' ∉ name := by
  cases target with
  | bare name =>
    have hshape : describe (.bare name) = "bare ".toList ++ name := rfl
    have hword : '\n' ∉ "bare ".toList := by decide
    rw [hshape, List.mem_append, or_iff_right hword, Target.names, List.forall_mem_singleton]
  | call plugin method params =>
    have hshape : describe (.call plugin method params) =
        "call ".toList ++ plugin ++ ('.' :: method ++ params.flatMap showParam) := by
      rw [← List.append_assoc]
      rfl
    have hword : '\n' ∉ "call ".toList := by decide
    have hparams : '\n' ∈ params.flatMap showParam ↔ ∃ param ∈ params, '\n' ∈ param.1 := by
      simp only [List.mem_flatMap, mem_showParam_iff]
    rw [hshape, Target.names]
    simp only [List.mem_append, or_iff_right hword, List.mem_cons, hparams]
    simp [not_or]

/-- What is listed of a directive: its token, a tab, and what it asks for. -/
def row (directive : Directive) : Text :=
  directive.raw ++ '\t' :: describe directive.target

/-- What stands in front of the first tab of a line. -/
def firstField (line : Text) : Option Text :=
  (Text.cutFirst '\t' line).map Prod.fst

/-- Whether neither the token of a directive nor the names it holds are broken into lines. -/
def OneLine (directive : Directive) : Prop :=
  '\n' ∉ directive.raw ∧ ∀ name ∈ directive.target.names, '\n' ∉ name

instance (directive : Directive) : Decidable (OneLine directive) :=
  inferInstanceAs (Decidable (_ ∧ _))

theorem flatMap_directiveLine (directives : List Directive) :
    directives.flatMap directiveLine = Text.unlines (directives.map row) := by
  rw [Text.unlines, List.flatMap_map]
  rfl

theorem not_mem_row_iff {directive : Directive} : '\n' ∉ row directive ↔ OneLine directive := by
  simp [row, OneLine, not_mem_describe_iff]

theorem forall_not_mem_row_iff {directives : List Directive} :
    (∀ line ∈ directives.map row, '\n' ∉ line) ↔ ∀ directive ∈ directives, OneLine directive := by
  simp only [List.forall_mem_map, not_mem_row_iff]

theorem firstField_row_iff {directive : Directive} :
    firstField (row directive) = some directive.raw ↔ '\t' ∉ directive.raw := by
  constructor
  · intro hfield
    obtain ⟨⟨token, rest⟩, hcut, rfl⟩ := Option.map_eq_some_iff.mp hfield
    exact (Text.cutFirst_eq_some_iff.mp hcut).1
  · intro htab
    rw [firstField, row, Text.cutFirst_append htab]
    rfl

/-- The tokens are read back from a listing exactly if it is not broken and none holds a tab. -/
theorem map_firstField_lines_iff {directives : List Directive} :
    (Text.lines (Text.unlines (directives.map row))).map firstField =
        directives.map (some ·.raw) ↔
      ∀ directive ∈ directives, OneLine directive ∧ '\t' ∉ directive.raw := by
  constructor
  · intro htokens
    have hlength := congrArg List.length htokens
    rw [List.length_map, List.length_map, ← List.length_map row] at hlength
    have hrows := Text.length_lines_unlines_iff.mp hlength
    rw [Text.lines_unlines hrows, List.map_map, List.map_inj_left] at htokens
    intro directive hdirective
    exact ⟨forall_not_mem_row_iff.mp hrows directive hdirective,
      firstField_row_iff.mp (htokens directive hdirective)⟩
  · intro hdirectives
    have hrows := forall_not_mem_row_iff.mpr fun directive hmem => (hdirectives directive hmem).1
    rw [Text.lines_unlines hrows, List.map_map, List.map_inj_left]
    exact fun directive hmem => firstField_row_iff.mpr (hdirectives directive hmem).2

theorem run_of_parse_scan {disk : Disk} {env : Environment} {args : List Text} {file text : Text}
    (hargs : parse env args = some (.scan file)) (htext : disk.get file = .ok text) :
    run disk env args =
      { code := 0
        stdout := Text.unlines ((Directive.scan text).map row)
        stderr := file ++ ": ".toList ++ Text.ofNat (Directive.scan text).length ++
          " directive(s)\n".toList } := by
  rw [run, hargs]
  simp only [answer, scan, htext, ← flatMap_directiveLine]
  rfl

/-- Scanning a file that can be read succeeds, reports the number of its distinct directives, and
writes for each of them its token, a tab and what it asks for, each time ended by a line feed. These
are the lines of the output, and there are as many of them as is reported, exactly if no token and
no name or key of a directive holds a line feed, whatever the values of parameters are; and the
tokens are what stands in front of the first tabs exactly if no token holds a tab, either. -/
theorem scan_lists_iff {disk : Disk} {env : Environment} {args : List Text} {file text : Text}
    (hargs : parse env args = some (.scan file)) (htext : disk.get file = .ok text) :
    let report := run disk env args
    let directives := Directive.scan text
    report.code = 0 ∧
      report.stderr = file ++ ": ".toList ++ Text.ofNat directives.length ++
        " directive(s)\n".toList ∧
      (directives.map Directive.raw).Nodup ∧
      report.stdout = (directives.map row).flatMap (· ++ ['\n']) ∧
      (Text.lines report.stdout = directives.map row ↔
        ∀ directive ∈ directives, OneLine directive) ∧
      ((Text.lines report.stdout).length = directives.length ↔
        ∀ directive ∈ directives, OneLine directive) ∧
      ((Text.lines report.stdout).map firstField = directives.map (some ·.raw) ↔
        ∀ directive ∈ directives, OneLine directive ∧ '\t' ∉ directive.raw) := by
  intro report directives
  have hreport : report = _ := run_of_parse_scan hargs htext
  have hlength : (directives.map row).length = directives.length := List.length_map _
  rw [hreport]
  refine ⟨rfl, rfl, Directive.nodup_map_raw_scan text, rfl,
    Text.lines_unlines_iff.trans forall_not_mem_row_iff, ?_, map_firstField_lines_iff⟩
  rw [← hlength]
  exact Text.length_lines_unlines_iff.trans forall_not_mem_row_iff

/-- A line feed in a value is written as an escape and breaks nothing. -/
theorem scan_lists_iff_broken_value :
    let token : Text := "\x7b\x7ba.b(c=1&#10;2,d)\x7d\x7d"
    let text : Text := token ++ '\n' :: token ++ "\x7b\x7broot\x7d\x7d".toList
    let disk : Disk := ⟨['/'], fun path =>
      if path = ['f'] then .ok (.file (some text)) else .error .missing⟩
    let report := run disk [] ["scan", ['f']]
    parse [] ["scan", ['f']] = some (.scan ['f']) ∧ disk.get ['f'] = .ok text ∧
      report.code = 0 ∧ report.stderr = "f: 2 directive(s)\n".toList ∧
      Text.lines report.stdout =
        [token ++ "\tcall a.b c=\"1\\n2\" d".toList, "\x7b\x7broot\x7d\x7d\tbare root"] ∧
      (Text.lines report.stdout).map firstField =
        [some token, some "\x7b\x7broot\x7d\x7d".toList] := by
  intro token text disk report
  have hargs : parse [] ["scan", ['f']] = some (.scan ['f']) := by decide
  have htext : disk.get ['f'] = .ok text := rfl
  have hlisted : ∀ directive ∈ Directive.scan text,
      OneLine directive ∧ '\t' ∉ directive.raw := by decide +kernel
  obtain ⟨hcode, hstderr, -, -, hlines, -, htokens⟩ := scan_lists_iff hargs htext
  refine ⟨hargs, htext, hcode, hstderr.trans ?_,
    (hlines.mpr fun directive hmem => (hlisted directive hmem).1).trans ?_,
    (htokens.mpr hlisted).trans ?_⟩
  · decide +kernel
  · decide +kernel
  · decide +kernel

/-- A line feed in a name, which a reference in the token stands for, is written as it is. -/
theorem scan_of_line_feed_in_name :
    let text : Text := "\x7b\x7ba&#10;b\x7d\x7d"
    let disk : Disk := ⟨['/'], fun path =>
      if path = ['f'] then .ok (.file (some text)) else .error .missing⟩
    let report := run disk [] ["scan", ['f']]
    disk.get ['f'] = .ok text ∧ report.stderr = "f: 1 directive(s)\n".toList ∧
      Text.lines report.stdout = [text ++ "\tbare a".toList, ['b']] ∧
      (Text.lines report.stdout).length ≠ (Directive.scan text).length ∧
      (Text.lines report.stdout).map firstField ≠ (Directive.scan text).map (some ·.raw) := by
  decide +kernel

end CommandLine

end Stencil
