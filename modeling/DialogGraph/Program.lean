import DialogGraph.Preview.Run
import DialogGraph.Program.Bot
import DialogGraph.Program.Handler
import DialogGraph.Program.Naming
import DialogGraph.Program.Spread
import DialogGraph.Program.Support
import DialogGraph.Program.Writer

/-!
# Programs

A flow is compiled into the text of a program that runs it as a bot. The blocks are data in the
program; for each kind of block that occurs the program holds a handler.
-/

namespace DialogGraph.Program

open DialogGraph.Text DialogGraph.Number

def handlers (bot : Bot) : List (Kind × Handler) :=
  bot.kinds.filterMap fun kind => (handler? kind).map fun handler => (kind, handler)

def requirements (bot : Bot) : String :=
  if (handlers bot).any fun handler => !handler.2.preamble.isEmpty then
    "aiogram python-dotenv openai"
  else "aiogram python-dotenv"

def headerLines (date : String) (bot : Bot) : List String := [
  "#!/usr/bin/env python3",
  "\"\"\"",
  "Compiled from BotFlow: " ++ bot.name,
  "Generated:  " ++ date,
  "",
  "Dependencies: pip install " ++ requirements bot,
  "Run:          BOT_TOKEN=<token> python <this file>",
  "",
  "This file was produced by botflow.compiler.",
  "Do not edit by hand; re-run compile_bot() to regenerate.",
  "\"\"\"",
  "from __future__ import annotations",
  "",
  "import ast",
  "import asyncio",
  "import csv",
  "import io",
  "import json",
  "import logging",
  "import operator",
  "import os",
  "import re",
  "import time",
  "from pathlib import Path",
  "",
  "from dotenv import load_dotenv",
  "",
  "load_dotenv()",
  "",
  "logger = logging.getLogger(" ++ quote (loggerName bot.name) ++ ")",
  ""]

def idLiteral : Option String → String
  | some id => quote id
  | none => "None"

def settingLines (bot : Bot) : Except TextFault (List String) := do
  let table ← spread 0 0 bot.table
  let writer := (({} : Writer).heading "Settings").extend [
    "",
    "BOT_NAME = " ++ quote bot.name,
    "BOT_TOKEN = os.environ.get(\"BOT_TOKEN\", " ++ quote bot.token ++ ")",
    "ADMIN_CHAT_ID = os.environ.get(\"ADMIN_CHAT_ID\", \"\")",
    "DATABASE_FILE = os.environ.get(\"BOT_DATABASE\", \"bot_database.json\")",
    "",
    ""]
  let writer := (writer.heading "Flow graph").extend [
    "",
    "START_MESSAGE = " ++ quote bot.greeting,
    "ENTRY_NODE_ID = " ++ idLiteral bot.entry]
  return (writer.extend (linesOf ("BLOCKS_GRAPH = " ++ table))).lines

def formLabels : Fields :=
  (Tagged.all : List FormFieldType).map fun type => (Tagged.tag type, .text (Form.label type))

def constants : Fields := [
  ("CATALOG_PAGE_SIZE", .int Catalog.pageSize),
  ("LOOP_WHILE_LIMIT", .int Loop.whileLimit),
  ("CART_EMPTY_MESSAGE", .text Cart.emptyText),
  ("CATALOG_EMPTY_MESSAGE", .text Catalog.emptyText),
  ("FORM_SUCCESS_MESSAGE", .text Form.successText),
  ("RESTART_HINT", .text Preview.restartHint),
  ("CATALOG_PREV", .text Catalog.previousTag),
  ("CATALOG_NEXT", .text Catalog.nextTag),
  ("CATALOG_PRODUCT_PREFIX", .text Catalog.productTagStart),
  ("FORM_FIELD_LABELS", .record formLabels),
  ("ORDER_CONFIRM_LABELS",
    .record (orderLabels.map fun label => (label.1, .text label.2)))]

def constantLine (constant : String × Value) : Except TextFault String := do
  let literal ← constant.2.quoted
  return constant.1 ++ " = " ++ literal

def coreHelpers : List Helper := [.substituteVariables, .checkCondition, .safeInt, .safeFloat]

def helpersOf (bot : Bot) : List Helper :=
  Helper.all.filter fun helper =>
    coreHelpers.contains helper || (handlers bot).any fun handler =>
      handler.2.helpers.contains helper

def helperLines (bot : Bot) : Except TextFault (List String) := do
  let constants ← constants.mapM constantLine
  let writer := (({} : Writer).heading "Shared helpers").blank.extend constants
  return (writer.extend ((helpersOf bot).flatMap fun helper => "" :: "" :: helper.lines)).lines

def preambleLines (bot : Bot) : List String :=
  (handlers bot).flatMap fun handler =>
    if handler.2.preamble.isEmpty then [] else "" :: "" :: handler.2.preamble

def dispatchLines (name : String) (methods : List (Kind × String)) : List String :=
  (name ++ " = \x7b") ::
    ((methods.map fun method => "    " ++ quote method.1.tag ++ ": " ++ quote method.2 ++ ",") ++
      ["\x7d"])

/-- The methods of a kind under the tag of the kind. -/
def kindLines (handler : Kind × Handler) : List String :=
  "" :: ("# " ++ handler.1.tag) :: handler.2.methods

/-- The class that drives the sessions through the blocks. -/
def runtimeLines (bot : Bot) : List String :=
  let handlers := handlers bot
  let runs := handlers.map fun handler => (handler.1, runMethod handler.1)
  let inputs := handlers.filterMap fun handler =>
    handler.2.resumeInput.map fun method => (handler.1, method)
  let callbacks := handlers.filterMap fun handler =>
    handler.2.resumeCallback.map fun method => (handler.1, method)
  let writer := (({} : Writer).heading "Flow runtime").extend ["", "class FlowRuntime:"]
  let writer := writer.deeper.extend
    ["\"\"\"Drives every session through BLOCKS_GRAPH, one node at a time.\"\"\"", ""]
  let writer := writer.extend (dispatchLines "HANDLERS" runs)
  let writer := writer.extend (dispatchLines "RESUME_INPUT" inputs)
  let writer := writer.extend (dispatchLines "RESUME_CALLBACK" callbacks)
  let writer := (writer.blank.extend driverLines).blank
  let writer := writer.comment
    "── Node kinds ──────────────────────────────────────────────────────"
  (writer.extend (handlers.flatMap kindLines)).lines

/-- The lines of a section; one that does not end with an empty line gets one. -/
def closed (part : List String) : List String :=
  match part.getLast? with
  | none => part
  | some last => if last.isEmpty then part else part ++ [""]

/-- The lines of a program without the empty ones at its end. -/
def dropLastBlanks (lines : List String) : List String :=
  (lines.reverse.dropWhile String.isEmpty).reverse

def text (date : String) (bot : Bot) : Except TextFault String := do
  let settings ← settingLines bot
  let helpers ← helperLines bot
  let sections := [headerLines date bot, settings, [""], helpers, preambleLines bot, ["", ""],
    supportLines, ["", ""], runtimeLines bot, ["", ""], messengerLines]
  return "\n".intercalate (dropLastBlanks (sections.flatMap closed)) ++ "\n"

inductive Fault where
  | compile (fault : CompileFault)
  | text (fault : TextFault)
  deriving Repr, DecidableEq

def Fault.message : Fault → String
  | compile fault => fault.message
  | text fault => fault.message

def compile (date : String) (flow : Flow) (name token : String) : Except Fault String :=
  match Bot.ofFlow flow name token with
  | .error fault => .error (.compile fault)
  | .ok bot => (text date bot).mapError .text

end DialogGraph.Program
