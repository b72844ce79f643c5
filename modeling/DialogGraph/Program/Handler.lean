import DialogGraph.Block.Kind
import DialogGraph.Program.Helper
import DialogGraph.Text.Case

/-!
# Handlers

How a program deals with each kind of block: the methods it carries, the helper functions they
call, and how a session that waits is resumed. A start block needs no handler.
-/

namespace DialogGraph.Program

/-- The name of the method that runs when a session comes to a block of a kind. -/
def runMethod (kind : Kind) : String := "_run_" ++ Text.lower kind.name

/-- What a program carries for a kind of block. -/
structure Handler where
  helpers : List Helper := []
  /-- The method that takes a text. -/
  resumeInput : Option String := none
  /-- The method that takes the tag of a button. -/
  resumeCallback : Option String := none
  /-- The lines that stand once at the top level. -/
  preamble : List String := []
  /-- The lines of the methods. -/
  methods : List String
  deriving Inhabited

def methodLines : Kind → List String
  | .start => []
  | .message => [
    "async def _run_message(self, session, node):",
    "    await self.say(session, substitute_variables(node[\"config\"].get(\"text\", \"\"), session.vars))",
    "    return \"default\""]
  | .question => [
    "async def _run_question(self, session, node):",
    "    await self.say(session, substitute_variables(node[\"config\"].get(\"question\", \"\"), session.vars))",
    "    session.waiting = \"input\"",
    "    return None",
    "",
    "async def _resume_question(self, session, node, text):",
    "    variable = node[\"config\"].get(\"variable\")",
    "    if variable:",
    "        session.vars[variable] = text",
    "    return \"default\""]
  | .choice => [
    "async def _run_choice(self, session, node):",
    "    cfg = node[\"config\"]",
    "    options = [o for o in cfg.get(\"options\", []) if o.strip()]",
    "    await self.say(session, substitute_variables(cfg.get(\"question\", \"\"), session.vars), options=options)",
    "    session.waiting = \"input\"",
    "    return None",
    "",
    "async def _resume_choice(self, session, node, text):",
    "    variable = node[\"config\"].get(\"variable\")",
    "    if variable:",
    "        session.vars[variable] = text",
    "    return \"default\""]
  | .condition => [
    "async def _run_condition(self, session, node):",
    "    cfg = node[\"config\"]",
    "    passed = check_condition(",
    "        session.vars.get(cfg.get(\"variable\", \"\"), \"\"),",
    "        cfg.get(\"condition\", \"equals\"),",
    "        substitute_variables(cfg.get(\"value\", \"\"), session.vars),",
    "    )",
    "    return \"true\" if passed else \"false\""]
  | .delay => [
    "async def _run_delay(self, session, node):",
    "    await self.transport.sleep(max(1, safe_int(node[\"config\"].get(\"seconds\", 1), 1)))",
    "    return \"default\""]
  | .setVariable => [
    "async def _run_set_variable(self, session, node):",
    "    cfg = node[\"config\"]",
    "    if cfg.get(\"variable\"):",
    "        session.vars[cfg[\"variable\"]] = substitute_variables(cfg.get(\"value\", \"\"), session.vars)",
    "    return \"default\""]
  | .loop => [
    "def _loop_port(self, session, frame):",
    "    if advance_loop(BLOCKS_GRAPH[frame[\"node\"]][\"config\"], frame, session.vars):",
    "        return \"loop_body\"",
    "    session.loop_frames = [f for f in session.loop_frames if f is not frame]",
    "    return \"default\"",
    "",
    "async def _run_loop(self, session, node):",
    "    frame = start_loop_frame(node[\"id\"], node[\"config\"], session.vars)",
    "    session.loop_frames.append(frame)",
    "    return self._loop_port(session, frame)"]
  | .sendImage => [
    "async def _run_send_image(self, session, node):",
    "    cfg = node[\"config\"]",
    "    caption = substitute_variables(cfg.get(\"caption\", \"\"), session.vars)",
    "    if cfg.get(\"image_file\"):",
    "        try:",
    "            await self.transport.send_image(session.key, cfg[\"image_file\"], caption)",
    "        except Exception as exc:",
    "            logger.error(\"image delivery to %s failed: %s\", session.key, exc)",
    "    elif caption:",
    "        await self.say(session, caption)",
    "    return \"default\""]
  | .inlineKeyboard => [
    "async def _run_inline_keyboard(self, session, node):",
    "    cfg = node[\"config\"]",
    "    buttons = [",
    "        (b.get(\"text\", \"\"), b.get(\"callback_data\", \"\").strip())",
    "        for b in cfg.get(\"buttons\", [])",
    "        if b.get(\"text\", \"\").strip() and b.get(\"callback_data\", \"\").strip()",
    "    ]",
    "    await self.say(session, substitute_variables(cfg.get(\"message\", \"\"), session.vars), buttons=buttons)",
    "    if not buttons:",
    "        return \"default\"",
    "    session.waiting = \"callback\"",
    "    return None"]
  | .compute => [
    "async def _run_compute(self, session, node):",
    "    cfg = node[\"config\"]",
    "    if cfg.get(\"result_variable\"):",
    "        session.vars[cfg[\"result_variable\"]] = safe_calculate(cfg.get(\"formula\", \"\"), session.vars)",
    "    return \"default\""]
  | .cartOp => [
    "async def _run_cart_op(self, session, node):",
    "    cfg = node[\"config\"]",
    "    action = cfg.get(\"action\", \"add\")",
    "    update_cart(",
    "        session.cart,",
    "        action,",
    "        session.vars.get(cfg.get(\"product_id\", \"product_id\")),",
    "        session.vars.get(cfg.get(\"quantity\", \"quantity\"), 1),",
    "    )",
    "    if action == \"show\":",
    "        summary = cart_summary(session.cart)",
    "        session.vars[\"cart_contents\"] = summary",
    "        await self.say(session, summary)",
    "    elif action == \"count\":",
    "        session.vars[\"cart_count\"] = sum(session.cart.values())",
    "    return \"default\""]
  | .payment => [
    "async def _run_payment(self, session, node):",
    "    cfg = node[\"config\"]",
    "    amount = payment_minor_units(session.vars.get(cfg.get(\"amount\", \"\"), 0))",
    "    provider_token = cfg.get(\"provider_token\", \"\")",
    "    if amount > 0 and provider_token:",
    "        title = substitute_variables(cfg.get(\"title\", \"\"), session.vars) or \"Order\"",
    "        try:",
    "            await self.transport.send_invoice(",
    "                session.key,",
    "                title=title,",
    "                description=substitute_variables(cfg.get(\"description\", \"\"), session.vars) or title,",
    "                currency=cfg.get(\"currency\") or \"RUB\",",
    "                amount=amount,",
    "                provider_token=provider_token,",
    "                payload=f\"order_\x7bsession.key\x7d_\x7bint(time.time())\x7d\",",
    "            )",
    "            logger.info(\"invoice sent to %s: %.2f %s\", session.key, amount / 100, cfg.get(\"currency\"))",
    "        except Exception as exc:",
    "            logger.error(\"invoice delivery to %s failed: %s\", session.key, exc)",
    "    else:",
    "        await self.say(session, \"❌ Payment error: provider token or amount is missing\")",
    "    return \"default\""]
  | .recordStore => [
    "async def _run_record_store(self, session, node):",
    "    cfg = node[\"config\"]",
    "    key = substitute_variables(cfg.get(\"key\", \"\"), session.vars)",
    "    operation = cfg.get(\"operation\", \"save\")",
    "    if operation == \"save\":",
    "        result = await self.store.save(key, session.vars.get(cfg.get(\"data\", \"\"), \"\"))",
    "    elif operation == \"load\":",
    "        result = await self.store.load(key)",
    "    else:",
    "        result = await self.store.delete(key)",
    "    if cfg.get(\"result_variable\"):",
    "        session.vars[cfg[\"result_variable\"]] = result",
    "    return \"default\""]
  | .catalog => [
    "async def _show_catalog_page(self, session, node, products):",
    "    page_key = f\"_catalog_page_\x7bnode['id']\x7d\"",
    "    page, total, items = catalog_page(products, session.vars.get(page_key, 0))",
    "    session.vars[page_key] = page",
    "    buttons = [(f\"\x7bp['name']\x7d - \x7bp['price']\x7d\", f\"\x7bCATALOG_PRODUCT_PREFIX\x7d\x7bi\x7d\") for i, p in items]",
    "    if page > 0:",
    "        buttons.append((\"⬅️\", CATALOG_PREV))",
    "    if page < total - 1:",
    "        buttons.append((\"➡️\", CATALOG_NEXT))",
    "    await self.say(session, f\"🛍 Catalog (page \x7bpage + 1\x7d/\x7btotal\x7d)\", buttons=buttons)",
    "    session.waiting = \"callback\"",
    "",
    "async def _run_catalog(self, session, node):",
    "    cfg = node[\"config\"]",
    "    products = parse_catalog(cfg.get(\"source\", \"json\"), cfg.get(\"products\", \"\"))",
    "    if not products:",
    "        await self.say(session, CATALOG_EMPTY_MESSAGE)",
    "        return \"default\"",
    "    await self._show_catalog_page(session, node, products)",
    "    return None",
    "",
    "async def _resume_catalog(self, session, node, tag):",
    "    cfg = node[\"config\"]",
    "    products = parse_catalog(cfg.get(\"source\", \"json\"), cfg.get(\"products\", \"\"))",
    "    page_key = f\"_catalog_page_\x7bnode['id']\x7d\"",
    "    if tag in (CATALOG_PREV, CATALOG_NEXT):",
    "        step = -1 if tag == CATALOG_PREV else 1",
    "        session.vars[page_key] = safe_int(session.vars.get(page_key, 0)) + step",
    "        await self._show_catalog_page(session, node, products)",
    "        return None",
    "    if tag.startswith(CATALOG_PRODUCT_PREFIX) and select_product(products, tag, session.vars):",
    "        return \"default\"",
    "    return None"]
  | .intakeForm => [
    "async def _finish_form(self, session, node):",
    "    message = substitute_variables(node[\"config\"].get(\"success_message\", \"\"), session.vars)",
    "    await self.say(session, message or FORM_SUCCESS_MESSAGE)",
    "    return \"default\"",
    "",
    "async def _run_intake_form(self, session, node):",
    "    fields = node[\"config\"].get(\"fields\", [])",
    "    if not fields:",
    "        return await self._finish_form(session, node)",
    "    session.form_index = 0",
    "    await self.say(session, form_field_prompt(fields[0].get(\"type\", \"name\")))",
    "    session.waiting = \"input\"",
    "    return None",
    "",
    "async def _resume_intake_form(self, session, node, text):",
    "    fields = node[\"config\"].get(\"fields\", [])",
    "    if session.form_index < len(fields) and fields[session.form_index].get(\"variable\"):",
    "        session.vars[fields[session.form_index][\"variable\"]] = text",
    "    session.form_index += 1",
    "    if session.form_index < len(fields):",
    "        await self.say(session, form_field_prompt(fields[session.form_index].get(\"type\", \"name\")))",
    "        return None",
    "    return await self._finish_form(session, node)"]
  | .notify => [
    "async def _run_notify(self, session, node):",
    "    cfg = node[\"config\"]",
    "    if cfg.get(\"target\", \"admin\") == \"admin\":",
    "        chat_id = substitute_variables(cfg.get(\"admin_chat_id\", \"\"), session.vars) or ADMIN_CHAT_ID",
    "    else:",
    "        chat_id = str(session.vars.get(cfg.get(\"chat_id\", \"\"), \"\"))",
    "    text = substitute_variables(cfg.get(\"message\", \"\"), session.vars)",
    "    if not chat_id:",
    "        logger.warning(\"notify %s: no recipient configured\", node[\"id\"])",
    "        return \"default\"",
    "    try:",
    "        await self.transport.send_text(chat_id, text)",
    "    except Exception as exc:",
    "        logger.error(\"notification to %s failed: %s\", chat_id, exc)",
    "    return \"default\""]
  | .orderConfirm => [
    "async def _run_order_confirm(self, session, node):",
    "    cfg = node[\"config\"]",
    "    parts = (",
    "        substitute_variables(cfg.get(\"title\", \"\"), session.vars),",
    "        substitute_variables(cfg.get(\"template\", \"\"), session.vars),",
    "    )",
    "    buttons = [(ORDER_CONFIRM_LABELS[port], tag) for tag, port in node[\"callbacks\"].items()]",
    "    await self.say(session, \"\\n\\n\".join(p for p in parts if p), buttons=buttons)",
    "    if not buttons:",
    "        return \"default\"",
    "    session.waiting = \"callback\"",
    "    return None"]
  | .llmPrompt => [
    "async def _run_llm_prompt(self, session, node):",
    "    cfg = node[\"config\"]",
    "    reply = await request_completion(",
    "        substitute_variables(cfg.get(\"prompt\", \"\"), session.vars),",
    "        api_key=cfg.get(\"api_key\", \"\"),",
    "        model=cfg.get(\"model\") or \"gpt-3.5-turbo\",",
    "        max_tokens=safe_int(cfg.get(\"max_tokens\", 500), 500),",
    "        temperature=safe_float(cfg.get(\"temperature\", 0.7), 0.7),",
    "    )",
    "    if cfg.get(\"result_variable\"):",
    "        session.vars[cfg[\"result_variable\"]] = reply",
    "    return \"default\""]

def handler? (kind : Kind) : Option Handler :=
  let methods := methodLines kind
  match kind with
  | .start => none
  | .question => some { methods := methods, resumeInput := some "_resume_question" }
  | .choice => some { methods := methods, resumeInput := some "_resume_choice" }
  | .loop => some { methods := methods, helpers := [.startLoopFrame, .advanceLoop] }
  | .inlineKeyboard => some { methods := methods, resumeCallback := some "_resume_routes" }
  | .compute => some { methods := methods, helpers := [.safeCalculate] }
  | .cartOp => some { methods := methods, helpers := [.updateCart, .cartSummary] }
  | .payment => some { methods := methods, helpers := [.paymentMinorUnits] }
  | .catalog => some {
      methods := methods
      helpers := [.parseCatalog, .catalogPage, .selectProduct]
      resumeCallback := some "_resume_catalog" }
  | .intakeForm => some {
      methods := methods
      helpers := [.formFieldPrompt]
      resumeInput := some "_resume_intake_form" }
  | .orderConfirm => some { methods := methods, resumeCallback := some "_resume_routes" }
  | .llmPrompt => some { methods := methods, preamble := completionLines }
  | _ => some { methods := methods }

end DialogGraph.Program
