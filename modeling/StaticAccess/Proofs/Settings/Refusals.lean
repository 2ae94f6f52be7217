import StaticAccess.Proofs.Settings.Lines
import StaticAccess.Proofs.Settings.Validation
import StaticAccess.Proofs.Text.Quoted

/-!
# Refused levels

A text that names no level is refused, and the report quotes it. As the quoted form shows no line
break, the line that quotes the text is the first one behind the head of the report, whether or not
a line about the other setting follows. As the text can be read back from its quoted form, two
texts that are refused are never reported in the same way.

## Main results

- `Settings.message_of_refused`: the first line of a report on a refused level.
- `Settings.refused_levels_told_apart`: how a refused level is quoted, and that this tells it apart
  from all others.
-/

namespace StaticAccess

namespace Settings

variable {given other : String} {fault fault' : Fault}

theorem eq_unknownLevel_of_readLevel (h : readLevel given = .error fault) :
    fault = .unknownLevel given := by
  rw [readLevel] at h
  split at h
  · cases h
  · exact (Except.error.inj h).symm

/-- Texts of which the same is said as levels are the same. -/
theorem message_unknownLevel_inj :
    (Fault.unknownLevel given).message = (Fault.unknownLevel other).message ↔ given = other := by
  rw [message_unknownLevel, message_unknownLevel, String.append_left_inj, String.append_right_inj,
    quoted_injective.eq_iff]

/-- The line about a refused level has no line break. -/
theorem newline_notMem_lineOf (given : String) :
    '\n' ∉ (lineOf ("log_level", .unknownLevel given)).toList := by
  have hstart : '\n' ∉ "log_level: Value error, Unknown log level ".toList := by decide
  have hend : '\n' ∉
      ", expected one of DEBUG, INFO, WARNING, ERROR, CRITICAL [value_error]".toList := by decide
  have hquoted : '\n' ∉ (quoted given).toList := by
    intro h
    rw [quoted, String.toList_ofList] at h
    exact Text.notMem_lineBreaks (Text.Quoted.isPrintable_encode h) (by decide)
  rw [lineOf_unknownLevel, String.toList_append, String.toList_append, List.mem_append,
    List.mem_append]
  exact not_or_intro (not_or_intro hstart hquoted) hend

/-- A refused level is reported, with the line about it first. One about the flag may follow. -/
theorem message_of_refused (hlevel : readLevel given = .error fault) (flag : Value) :
    ∃ error, validate (.string given) flag = .error error ∧ ∃ rest : String, error.message =
        "Settings\n" ++ lineOf ("log_level", .unknownLevel given) ++ rest ∧
      ∀ c ∈ rest.toList.head?, c = '\n' := by
  obtain rfl := eq_unknownLevel_of_readLevel hlevel
  have hfails : ∀ settings, validate (.string given) flag ≠ .ok settings := by
    intro settings hok
    rw [validate_eq_ok_iff, hlevel] at hok
    cases hok.1
  let others := (faultOf .announceDuplicates (readFlag flag)).map lineOf
  have hlines : (faultOf .logLevel (readLevel given) ++
      faultOf .announceDuplicates (readFlag flag)).map lineOf =
        lineOf ("log_level", .unknownLevel given) :: others := by
    rw [hlevel]
    rfl
  have hstart : "Settings" ++ "\n" = "Settings\n" := by decide
  refine ⟨_, validate_of_faults hfails, String.join (others.map ("\n" ++ ·)), ?_, ?_⟩
  · rw [message_invalid, hlines, List.map_cons, String.join_cons, ← hstart]
    simp only [String.append_assoc]
  · cases others with
    | nil => simp
    | cons line others => simp [String.join_cons]

/-- Different refused levels are reported differently, whatever the flags are. -/
theorem message_ne_of_refused (hlevel : readLevel given = .error fault)
    (hother : readLevel other = .error fault') (hne : given ≠ other) (flag flag' : Value) :
    ∃ error error', validate (.string given) flag = .error error ∧
      validate (.string other) flag' = .error error' ∧ error.message ≠ error'.message := by
  obtain ⟨error, herror, rest, hrest, hhead⟩ := message_of_refused hlevel flag
  obtain ⟨error', herror', rest', hrest', hhead'⟩ := message_of_refused hother flag'
  refine ⟨error, error', herror, herror', fun hmessage => hne ?_⟩
  rw [hrest, hrest', String.append_assoc, String.append_assoc, String.append_right_inj] at hmessage
  -- The line about the level reaches up to the first line break, if there is one.
  have hfirst (text : String) {rest : String} (hhead : ∀ c ∈ rest.toList.head?, c = '\n') :
      (lineOf ("log_level", .unknownLevel text) ++ rest).toList.takeWhile (· ≠ '\n') =
        (lineOf ("log_level", .unknownLevel text)).toList := by
    rw [String.toList_append]
    refine Line.takeWhile_append (fun c hc => ?_) fun c hc => by simp [hhead c hc]
    simpa using ne_of_mem_of_not_mem hc (newline_notMem_lineOf text)
  have hline : lineOf ("log_level", .unknownLevel given) =
      lineOf ("log_level", .unknownLevel other) := by
    rw [← String.toList_inj, ← hfirst given hhead, ← hfirst other hhead', hmessage]
  rwa [lineOf_unknownLevel, lineOf_unknownLevel, String.append_left_inj, String.append_right_inj,
    quoted_injective.eq_iff] at hline

/-- A text that names no level is refused with a message that quotes it. The quoted form of any text
shows printable characters only, and so no line break. It stands between two quotes of one kind, and
where such a quote stands between them, it is escaped: the number of backslashes before it is odd.
The text can be read back from its quoted form. Hence the messages about two different refused texts
are different, and so are the whole reports on them, whatever is said there about the flag. -/
theorem refused_levels_told_apart (given : String) :
    (∀ fault, readLevel given = .error fault → fault.message =
        "Value error, Unknown log level " ++ quoted given ++
          ", expected one of DEBUG, INFO, WARNING, ERROR, CRITICAL [value_error]") ∧
      (∀ c ∈ (quoted given).toList, Text.isPrintable c = true ∧ c ∉ Text.lineBreaks) ∧
      (∃ quote inner, Text.Quoted.IsQuote quote ∧
        (quoted given).toList = quote :: inner ++ [quote] ∧
        ∀ before after, inner = before ++ quote :: after →
          Odd (Text.Quotation.backslashes before)) ∧
      Text.Quoted.decode (quoted given).toList = some given.toList ∧
      ∀ other fault fault', readLevel given = .error fault → readLevel other = .error fault' →
        given ≠ other → fault.message ≠ fault'.message ∧
          ∀ flag flag', ∃ error error', validate (.string given) flag = .error error ∧
            validate (.string other) flag' = .error error' ∧ error.message ≠ error'.message := by
  have hquoted : (quoted given).toList = Text.Quoted.encode given.toList := String.toList_ofList
  refine ⟨fun fault hfault => ?_, fun c hc => ?_, ⟨Text.Quoted.enclosing given.toList, _,
    Text.Quoted.isQuote_enclosing given.toList, hquoted, fun before after hinner => ?_⟩, ?_,
    fun other fault fault' hfault hfault' hne => ⟨fun hmessage => hne ?_,
      message_ne_of_refused hfault hfault' hne⟩⟩
  · rw [eq_unknownLevel_of_readLevel hfault, message_unknownLevel]
  · rw [hquoted] at hc
    have hprintable := Text.Quoted.isPrintable_encode hc
    exact ⟨hprintable, Text.notMem_lineBreaks hprintable⟩
  · have hquote := Text.Quoted.isQuote_enclosing given.toList
    exact Text.Quotation.odd_backslashes hquote.ne_backslash
      (Text.Quoted.cut?_flatMap_escape hquote given.toList []) hinner
  · rw [hquoted, Text.Quoted.decode_encode]
  · rw [eq_unknownLevel_of_readLevel hfault, eq_unknownLevel_of_readLevel hfault'] at hmessage
    exact message_unknownLevel_inj.1 hmessage

/-- A line feed, and a backslash before the letter that stands for it. The one is reported together
with a word that stands for no flag. -/
theorem refused_levels_told_apart_newline :
    let given := "it's \"\n\x7f\""
    let other := "it's \"\\n\x7f\""
    readLevel given = .error (.unknownLevel given) ∧
      readLevel other = .error (.unknownLevel other) ∧ given ≠ other ∧
      quoted given = "'it\\'s \"\\n\\x7f\"'" ∧
      Text.Quoted.decode (quoted given).toList = some given.toList ∧
      (Fault.unknownLevel given).message ≠ (Fault.unknownLevel other).message ∧
      ∃ error error', validate (.string given) (.string "maybe") = .error error ∧
        validate (.string other) (.bool true) = .error error' ∧
          error.message ≠ error'.message := by
  intro given other
  have hgiven : readLevel given = .error (.unknownLevel given) := by decide
  have hother : readLevel other = .error (.unknownLevel other) := by decide
  have hne : given ≠ other := by decide
  obtain ⟨-, -, -, hdecode, hapart⟩ := refused_levels_told_apart given
  obtain ⟨hmessage, hreport⟩ := hapart other _ _ hgiven hother hne
  exact ⟨hgiven, hother, hne, by decide, hdecode, hmessage, hreport _ _⟩

end Settings

end StaticAccess
