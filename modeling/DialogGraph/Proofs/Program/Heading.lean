import DialogGraph.Proofs.Literal.TextEnds
import DialogGraph.Proofs.Program.Literals

/-!
# The name of a bot in its program

A program shows the name of its bot in three places: in the description at its head, as the name of
its log, and in its settings. The last two are quoted, so whatever the name is, it stays within its
literals. The description takes the name as it is. It comes to its end where it was meant to, with
nothing but escapes behind its backslashes, just if the name is harmless: if it has no three double
quotes in a row, no null character, and no backslash that begins no escape.
-/

namespace DialogGraph.Program

open DialogGraph.Literal DialogGraph.Text

/-- A program without the name of its bot. -/
structure Casing where
  date : String
  packages : String
  /-- What follows the line with the name in the settings. -/
  rest : String

namespace Casing

def firstLine : String := "\n".intercalate ["#!/usr/bin/env python3", ""]

def quotes : String := "\"\"\""

/-- The description up to the name. -/
def above : String := "\n".intercalate ["", "Compiled from BotFlow: "]

variable (casing : Casing)

/-- The description behind the line with the name. -/
def below : String := "\n".intercalate [
  "Generated:  " ++ casing.date,
  "",
  "Dependencies: pip install " ++ casing.packages,
  "Run:          BOT_TOKEN=<token> python <this file>",
  "",
  "This file was produced by botflow.compiler.",
  "Do not edit by hand; re-run compile_bot() to regenerate.",
  ""]

def description (name : String) : String := above ++ name ++ "\n" ++ casing.below

/-- What is between the description and the name of the log. -/
def imports : String := "\n".intercalate [
  "",
  "from __future__ import annotations",
  "",
  "import ast",
  "import asyncio",
  "import csv",
  "import io",
  "import json",
  "import logging",
  "import operator",
  "import os",
  "import re",
  "import time",
  "from pathlib import Path",
  "",
  "from dotenv import load_dotenv",
  "",
  "load_dotenv()",
  "",
  ""] ++ "logger = logging.getLogger("

/-- What is between the name of the log and the name in the settings. -/
def settings : String :=
  "\n".intercalate [")", "", Writer.headingText "Settings", "", "BOT_NAME = "]

def behind (name : String) : String :=
  imports ++ quote (loggerName name) ++ settings ++ quote name ++ "\n" ++ casing.rest

def source (name : String) : String :=
  firstLine ++ quotes ++ casing.description name ++ quotes ++ casing.behind name

/-- The pieces up to the name in the settings, each with the text that is meant in it. -/
def pieces (name : String) : List Piece := [
  ⟨firstLine.toList, (casing.description name).toList⟩,
  ⟨imports.toList, spelling (loggerName name)⟩,
  ⟨settings.toList, spelling name⟩]

/-- Whether a program keeps the name of its bot within its texts: the first of them are the
description, the name of the log and the name in the settings, and all backslashes in them are parts
of escapes. -/
structure Encloses (named : String → Bool) (name : String) : Prop where
  pieces : pieces? 3 (casing.source name).toList =
    some (casing.pieces name, '\n' :: casing.rest.toList)
  escapes : ∀ piece ∈ casing.pieces name, escapesValid named piece.text = true

end Casing

/-- Whether a name neither ends the text between three quotes that takes it as a line, nor has a
backslash in it that begins no escape. A backslash at its end goes with the end of the line. -/
def Harmless (named : String → Bool) (name : String) : Prop :=
  keepsOpen name.toList = true ∧ escapesValid named (name.toList ++ ['\n']) = true

instance (named : String → Bool) (name : String) : Decidable (Harmless named name) :=
  inferInstanceAs (Decidable (_ ∧ _))

namespace Casing

variable {casing : Casing}

/-! ### The lines of a program -/

theorem closed_headerLines (date : String) (bot : Bot) :
    closed (headerLines date bot) = headerLines date bot := rfl

/-- The lines of a program up to the name in its settings are the casing around the name. -/
theorem intercalate_headerLines (date : String) (bot : Bot) {after : List String}
    (hafter : after ≠ []) :
    "\n".intercalate (closed (headerLines date bot) ++ (Writer.headingText "Settings" :: "" ::
      ("BOT_NAME = " ++ quote bot.name) :: after)) =
        source ⟨date, requirements bot, "\n".intercalate after⟩ bot.name := by
  rw [closed_headerLines]
  simp only [headerLines, source, firstLine, quotes, description, behind, above, below, imports,
    settings, List.cons_append, List.nil_append, String.intercalate_cons_cons,
    String.intercalate_singleton, String.intercalate_cons_of_ne_nil hafter, String.append_assoc,
    String.empty_append]

/-- A flow that compiles under one name compiles under all, to one program but for the name. -/
theorem exists_source_eq {date token name program : String} {flow : Flow}
    (hcompile : compile date flow name token = .ok program) :
    ∃ casing : Casing, casing.date = date ∧ (∃ bot, casing.packages = requirements bot) ∧
      ∀ other, compile date flow other token = .ok (casing.source other) := by
  rw [compile] at hcompile
  cases hbot : Bot.ofFlow flow name token with
  | error fault =>
    rw [hbot] at hcompile
    cases hcompile
  | ok bot =>
    rw [hbot] at hcompile
    obtain ⟨start, hstart, hchecked, rfl⟩ := Bot.ofFlow_eq_ok_iff.1 hbot
    obtain ⟨table, helpers, htable, hhelpers, -⟩ :=
      text_eq_ok_iff.1 (mapError_eq_ok_iff.1 hcompile)
    let bot := Bot.beginningAt start flow name token
    let after := (literalsOf bot table).head.drop 3 ++ linesFromTable bot table helpers
    have hafter : after ≠ [] := List.append_ne_nil_of_right_ne_nil _ (linesFromTable_ne_nil _ _ _)
    refine ⟨⟨date, requirements bot, "\n".intercalate after⟩, rfl, ⟨bot, rfl⟩, fun other => ?_⟩
    rw [compile, Bot.ofFlow_eq_ok_iff.2 ⟨start, hstart, hchecked, rfl⟩]
    refine mapError_eq_ok_iff.2 (text_eq_ok_iff.2 ⟨table, helpers, htable, hhelpers, ?_⟩)
    rw [List.append_assoc]
    exact intercalate_headerLines date (Bot.beginningAt start flow other token) hafter

/-! ### The code around the texts -/

theorem code_firstLine (rest : List Char) :
    code false (firstLine.toList ++ doubleQuote :: rest) =
      (firstLine.toList, doubleQuote :: rest) := by
  have hline : firstLine.toList = '#' :: ("!/usr/bin/env python3".toList ++ ['\n']) := by
    simp [firstLine, String.intercalate_cons_cons]
  have hcomment : ∀ c ∈ "!/usr/bin/env python3".toList, c ≠ '\n' ∧ c ≠ '\r' := by
    simp
  rw [hline, List.cons_append, List.append_assoc, List.singleton_append, code_comment hcomment,
    code_quote (by decide)]
  rfl

theorem code_imports (s : String) (rest : List Char) :
    code false (imports.toList ++ ((quote s).toList ++ rest)) =
      (imports.toList, (quote s).toList ++ rest) := by
  have hplain : imports.toList.all (fun c => isQuote c == false && c != '#') = true := by
    rw [imports, String.toList_append, String.toList_intercalate]
    decide +kernel
  rw [code_plain (by simpa using hplain), code_quoted, through, List.append_nil]

/-- There is a comment in the code before the name in the settings. -/
theorem exists_settings_eq : ∃ line, (∀ c ∈ line, c ≠ '\n' ∧ c ≠ '\r') ∧ settings.toList =
    ')' :: '\n' :: '\n' :: '#' :: (line ++ '\n' :: "\nBOT_NAME = ".toList) := by
  refine ⟨" ── Settings ".toList ++ List.replicate (max 3 (74 - "Settings".length)) '─', ?_, ?_⟩
  · simp [or_imp, forall_and]
  · simp [settings, Writer.headingText, String.intercalate_cons_cons]

theorem code_settings (s : String) (rest : List Char) :
    code false (settings.toList ++ ((quote s).toList ++ rest)) =
      (settings.toList, (quote s).toList ++ rest) := by
  obtain ⟨line, hcomment, hsettings⟩ := exists_settings_eq
  have hplain : ∀ c ∈ [')', '\n', '\n'], isQuote c = false ∧ c ≠ '#' := by
    simp [isQuote, singleQuote, doubleQuote]
  have hbefore : ∀ rest, code false (')' :: '\n' :: '\n' :: rest) =
      through [')', '\n', '\n'] (code false rest) := code_plain hplain
  have hafter : ∀ c ∈ "\nBOT_NAME = ".toList, isQuote c = false ∧ c ≠ '#' := by
    simp [isQuote, singleQuote, doubleQuote]
  simp only [hsettings, List.cons_append, List.append_assoc]
  rw [hbefore, code_comment hcomment, code_plain hafter, code_quoted]
  simp [through]

/-! ### The description -/

/-- Whether a character has no part to play in the description: it neither ends a text between three
quotes nor begins or ends an escape. -/
def IsCommon (c : Char) : Prop := IsPlain longQuotes c ∧ c ≠ '\x7d'

instance (c : Char) : Decidable (IsCommon c) := inferInstanceAs (Decidable (_ ∧ _))

/-- Whether the description is common behind the line with the name. -/
def Common (casing : Casing) : Prop := ∀ c ∈ casing.below.toList, IsCommon c

theorem isCommon_of_all {s : String} (hs : s.toList.all (fun c => decide (IsCommon c)) = true) :
    ∀ c ∈ s.toList, IsCommon c := by
  simpa using hs

theorem isCommon_append {s t : String} (hs : ∀ c ∈ s.toList, IsCommon c)
    (ht : ∀ c ∈ t.toList, IsCommon c) : ∀ c ∈ (s ++ t).toList, IsCommon c := by
  rw [String.toList_append]
  exact List.forall_mem_append.2 ⟨hs, ht⟩

theorem isCommon_requirements (bot : Bot) : ∀ c ∈ (requirements bot).toList, IsCommon c := by
  rw [requirements]
  split <;> exact isCommon_of_all (by decide +kernel)

/-- A date of digits and hyphens is common, and so is the rest of the description. -/
theorem common_of_date (hdate : ∀ c ∈ casing.date.toList, c.isDigit = true ∨ c = '-') {bot : Bot}
    (hpackages : casing.packages = requirements bot) : casing.Common := by
  have hcommon : ∀ c ∈ casing.date.toList, IsCommon c := by
    intro c hc
    have hother : ∀ d, d.isDigit = false ∧ d ≠ '-' → c ≠ d := by
      rintro d ⟨hdigit, hhyphen⟩ rfl
      rcases hdate c hc with hsame | hsame
      · cases hdigit.symm.trans hsame
      · exact hhyphen hsame
    refine ⟨⟨?_, hother _ (by decide), ?_⟩, hother _ (by decide)⟩
    · rw [mayHold_longQuotes]
      exact bne_iff_ne.2 (hother _ (by decide))
    · intro hsame
      exact hother _ (by decide) (Option.some.inj hsame).symm
  rw [Common, below, String.toList_intercalate]
  apply forall_mem_intercalate
  · exact isCommon_of_all (by decide +kernel)
  · rw [List.forall_mem_map, hpackages]
    exact List.forall_iff_forall_mem.1
      ⟨isCommon_append (isCommon_of_all (by decide +kernel)) hcommon,
        isCommon_of_all rfl,
        isCommon_append (isCommon_of_all (by decide +kernel)) (isCommon_requirements bot),
        isCommon_of_all (by decide +kernel), isCommon_of_all rfl,
        isCommon_of_all (by decide +kernel), isCommon_of_all (by decide +kernel),
        isCommon_of_all rfl⟩

theorem isCommon_above : ∀ c ∈ above.toList, IsCommon c := by
  rw [above, String.toList_intercalate]
  apply forall_mem_intercalate
  · exact isCommon_of_all (by decide +kernel)
  · rw [List.forall_mem_map]
    exact List.forall_iff_forall_mem.1
      ⟨isCommon_of_all rfl, isCommon_of_all (by decide +kernel)⟩

theorem toList_description (name : String) : (casing.description name).toList =
    above.toList ++ (name.toList ++ '\n' :: casing.below.toList) := by
  simp [description]

theorem longQuotes_ne_nil : longQuotes ≠ [] := by decide

theorem upTo?_above (rest : List Char) :
    upTo? longQuotes (above.toList ++ rest) = (upTo? longQuotes rest).map (through above.toList) :=
  upTo?_plain longQuotes_ne_nil (fun c hc => (isCommon_above c hc).1) rest

/-- A name that keeps the description open is in it as it is. -/
theorem text?_description (hcommon : casing.Common) {name : String}
    (hopen : keepsOpen name.toList = true) (rest : List Char) :
    text? (longQuotes ++ ((casing.description name).toList ++ (longQuotes ++ rest))) =
      some ((casing.description name).toList, rest) := by
  rw [text?_longQuotes, toList_description, List.append_assoc, List.append_assoc,
    List.cons_append, upTo?_above, upTo?_line hopen,
    upTo?_plain longQuotes_ne_nil (fun c hc => (hcommon c hc).1), upTo?_longQuotes]
  simp [through]

/-- Only a name that keeps the description open can be in it as it is. -/
theorem keepsOpen_of_description {name : String} {rest after : List Char}
    (hfound : text? (longQuotes ++ ((casing.description name).toList ++ rest)) =
      some ((casing.description name).toList, after)) : keepsOpen name.toList = true := by
  rw [text?_longQuotes, toList_description, List.append_assoc, List.append_assoc, List.cons_append,
    upTo?_above] at hfound
  obtain ⟨found, hname, hsame⟩ := Option.map_eq_some_iff.1 hfound
  obtain rfl := through_inj hsame
  exact keepsOpen_of_upTo? hname

theorem escapesValid_description (hcommon : casing.Common) (named : String → Bool)
    (name : String) : escapesValid named (casing.description name).toList =
      escapesValid named (name.toList ++ ['\n']) := by
  have habove : '\\' ∉ above.toList := fun hmem => (isCommon_above _ hmem).1.2.1 rfl
  have hbelow : '\\' ∉ casing.below.toList := fun hmem => (hcommon _ hmem).1.2.1 rfl
  have hbrace : '\x7d' ∉ casing.below.toList := fun hmem => (hcommon _ hmem).2 rfl
  rw [toList_description, escapesValid_append habove, escapesValid_line _ hbelow hbrace]

/-! ### The pieces of a program -/

variable {named : String → Bool} {name : String}

theorem toList_behind (casing : Casing) (name : String) : (casing.behind name).toList =
    imports.toList ++ ((quote (loggerName name)).toList ++ (settings.toList ++
      ((quote name).toList ++ '\n' :: casing.rest.toList))) := by
  simp [behind]

theorem toList_source (casing : Casing) (name : String) : (casing.source name).toList =
    firstLine.toList ++ (longQuotes ++ ((casing.description name).toList ++ (longQuotes ++
      (casing.behind name).toList))) := by
  have hquotes : quotes.toList = longQuotes := by decide +kernel
  simp [source, hquotes]

theorem code_source (casing : Casing) (name : String) : code false (casing.source name).toList =
    (firstLine.toList, longQuotes ++ ((casing.description name).toList ++ (longQuotes ++
      (casing.behind name).toList))) := by
  rw [toList_source]
  exact code_firstLine _

theorem not_isAlpha_getLast? : ∀ before ∈ [firstLine, imports, settings],
    before.toList.getLast?.any Char.isAlpha = false := by
  have himports : imports.toList.getLast? = some '(' := by
    have hlast : "logger = logging.getLogger(".toList.getLast? = some '(' := by simp
    rw [imports, String.toList_append, List.getLast?_append, hlast, Option.some_or]
  have hsettings : settings.toList.getLast? = some ' ' := by
    obtain ⟨line, -, hsettings⟩ := exists_settings_eq
    simp [hsettings, List.getLast?_cons, List.getLast?_append]
  simp [himports, hsettings, firstLine, String.intercalate_cons_cons]

/-- Behind the description both texts end where they were meant to, whatever the name. -/
theorem pieces?_behind (casing : Casing) (name : String) :
    pieces? 2 (casing.behind name).toList =
      some ((casing.pieces name).tail, '\n' :: casing.rest.toList) := by
  obtain ⟨line, -, hsettings⟩ := exists_settings_eq
  have hlog : text? ((quote (loggerName name)).toList ++ (settings.toList ++
      ((quote name).toList ++ '\n' :: casing.rest.toList))) =
        some (spelling (loggerName name), settings.toList ++
          ((quote name).toList ++ '\n' :: casing.rest.toList)) := by
    rw [hsettings]
    exact text?_quote _ (by decide) _
  rw [toList_behind, pieces?_succ (code_imports _ _) (not_isAlpha_getLast? _ (by simp)) hlog,
    pieces?_succ (code_settings _ _) (not_isAlpha_getLast? _ (by simp))
      (text?_quote _ (by decide) _)]
  rfl

theorem pieces?_source (hcommon : casing.Common) (hopen : keepsOpen name.toList = true) :
    pieces? 3 (casing.source name).toList =
      some (casing.pieces name, '\n' :: casing.rest.toList) := by
  rw [pieces?_succ (code_source casing name) (not_isAlpha_getLast? _ (by simp))
    (text?_description hcommon hopen _), pieces?_behind]
  rfl

/-- The first text is the description just if the name keeps it open, and the only escapes that the
name can spoil are those in the description. -/
theorem encloses_iff (hcommon : casing.Common) :
    casing.Encloses named name ↔ Harmless named name := by
  have hescapes : (∀ piece ∈ casing.pieces name, escapesValid named piece.text = true) ↔
      escapesValid named (name.toList ++ ['\n']) = true := by
    simp [pieces, escapesValid_spelling, escapesValid_description hcommon]
  constructor
  · rintro ⟨hpieces, hvalid⟩
    refine ⟨?_, hescapes.1 hvalid⟩
    obtain ⟨after, htext⟩ := text?_of_pieces? hpieces
    rw [code_source] at htext
    exact keepsOpen_of_description htext
  · rintro ⟨hopen, hvalid⟩
    exact ⟨pieces?_source hcommon hopen, hescapes.2 hvalid⟩

end Casing

/-! ### Harmless names -/

/-- A flow that compiles under one name compiles under all, to one program but for the name. This
keeps the name within its texts, with nothing but escapes behind their backslashes, just if the name
is harmless. Behind the description it does so in any case. -/
theorem encloses_iff_harmless {date token name program : String} {flow : Flow}
    (hdate : ∀ c ∈ date.toList, c.isDigit = true ∨ c = '-')
    (hcompile : compile date flow name token = .ok program) (named : String → Bool) :
    ∃ casing : Casing, casing.date = date ∧ ∀ other,
      compile date flow other token = .ok (casing.source other) ∧
        (casing.Encloses named other ↔ Harmless named other) ∧
        pieces? 2 (casing.behind other).toList =
          some ((casing.pieces other).tail, '\n' :: casing.rest.toList) := by
  obtain ⟨casing, rfl, ⟨bot, hpackages⟩, hsource⟩ := Casing.exists_source_eq hcompile
  have hcommon : casing.Common := Casing.common_of_date hdate hpackages
  refine ⟨casing, rfl, fun other => ⟨hsource other, Casing.encloses_iff hcommon, ?_⟩⟩
  exact casing.pieces?_behind other

example : ¬Harmless (fun _ => false) "C:\\Users" := by decide +kernel

/-- A flow of a beginning and a prompt. -/
def shortFlow : Flow := promptingFlow Workspace.fresh.history 0

theorem exists_compile_shortFlow (name : String) :
    ∃ program, compile "2024-05-01" shortFlow name "1:abc" = .ok program := by
  have hflow : shortFlow.WellFormed := (Workspace.run_sound .empty _).toWellFormed
  obtain ⟨-, program, -, hprogram, -⟩ := holdsData_of_wellFormed hflow short_promptingFlow
    starts_promptingFlow "2024-05-01" name "1:abc"
  exact ⟨program, hprogram⟩

/-- A name with quotes in it, a code, the name of a character and a backslash at its end. -/
def quotingName : String := "Say \"\"hi\"\" \\x21 \\N\x7bBULLET\x7d \\"

/-- `encloses_iff_harmless` at `quotingName`. -/
theorem encloses_quotingName : (∀ c ∈ "2024-05-01".toList, c.isDigit = true ∨ c = '-') ∧
    ∃ program, compile "2024-05-01" shortFlow "Greeter" "1:abc" = .ok program ∧
      ∃ casing : Casing,
        compile "2024-05-01" shortFlow quotingName "1:abc" = .ok (casing.source quotingName) ∧
          casing.Encloses (· == "BULLET") quotingName := by
  have hdate : ∀ c ∈ "2024-05-01".toList, c.isDigit = true ∨ c = '-' := by
    simp
  have hharmless : Harmless (· == "BULLET") quotingName := by decide +kernel
  obtain ⟨program, hprogram⟩ := exists_compile_shortFlow "Greeter"
  obtain ⟨casing, -, hall⟩ := encloses_iff_harmless hdate hprogram (· == "BULLET")
  obtain ⟨hsource, hiff, -⟩ := hall quotingName
  exact ⟨hdate, program, hprogram, casing, hsource, hiff.2 hharmless⟩

/-- A name of three double quotes ends the description where it stands. -/
theorem not_encloses_longQuotes : ∃ casing : Casing, casing.date = "2024-05-01" ∧
    compile "2024-05-01" shortFlow "\"\"\"" "1:abc" = .ok (casing.source "\"\"\"") ∧
      (∃ rest, pieces? 1 (casing.source "\"\"\"").toList =
        some ([⟨Casing.firstLine.toList, Casing.above.toList⟩], rest)) ∧
      ∀ named, ¬casing.Encloses named "\"\"\"" := by
  obtain ⟨program, hprogram⟩ := exists_compile_shortFlow "\"\"\""
  obtain ⟨casing, hdate, ⟨bot, hpackages⟩, hsource⟩ := Casing.exists_source_eq hprogram
  have hcommon : casing.Common := by
    apply Casing.common_of_date _ hpackages
    rw [hdate]
    simp
  refine ⟨casing, hdate, hsource _, ?_, fun named hencloses => ?_⟩
  · have hname : "\"\"\"".toList = longQuotes := by decide +kernel
    have htext : text? (longQuotes ++ ((casing.description "\"\"\"").toList ++ (longQuotes ++
        (casing.behind "\"\"\"").toList))) = some (Casing.above.toList,
          '\n' :: (casing.below.toList ++ (longQuotes ++ (casing.behind "\"\"\"").toList))) := by
      rw [text?_longQuotes, Casing.toList_description, hname, List.append_assoc, List.append_assoc,
        List.cons_append, Casing.upTo?_above, upTo?_longQuotes, Option.map_some, through,
        List.append_nil]
    rw [pieces?_succ (Casing.code_source _ _) (Casing.not_isAlpha_getLast? _ List.mem_cons_self)
      htext]
    exact ⟨_, rfl⟩
  · have hharmful : keepsOpen "\"\"\"".toList = false := by decide +kernel
    cases hharmful.symm.trans ((Casing.encloses_iff hcommon).1 hencloses).1

end DialogGraph.Program
