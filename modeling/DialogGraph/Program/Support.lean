/-!
# Fixed parts of a program

The parts that every program has: how records are kept, what a session holds, how messages are
sent, and how a session is driven through the blocks.
-/

namespace DialogGraph.Program

def supportLines : List String := [
  "# ── Record store ─────────────────────────────────────────────────────────────",
  "",
  "class RecordStore:",
  "    \"\"\"",
  "    Key/value records in one JSON file, read whole and rewritten whole.",
  "    One lock guards every read-modify-write of the file, so throughput is",
  "    bounded by file size; FlowRuntime.sessions likewise grows with every",
  "    chat seen.",
  "    \"\"\"",
  "",
  "    def __init__(self, path=DATABASE_FILE):",
  "        self.path = Path(path)",
  "        self._lock = asyncio.Lock()",
  "",
  "    def _read(self):",
  "        if not self.path.exists():",
  "            return \x7b\x7d",
  "        try:",
  "            with self.path.open(encoding=\"utf-8\") as fh:",
  "                data = json.load(fh)",
  "        except (OSError, ValueError) as exc:",
  "            logger.error(\"record store %s unreadable: %s\", self.path, exc)",
  "            return \x7b\x7d",
  "        return data if isinstance(data, dict) else \x7b\x7d",
  "",
  "    def _write(self, data):",
  "        tmp = self.path.with_name(self.path.name + \".tmp\")",
  "        with tmp.open(\"w\", encoding=\"utf-8\") as fh:",
  "            json.dump(data, fh, ensure_ascii=False, indent=2)",
  "        tmp.replace(self.path)",
  "",
  "    async def save(self, key, value):",
  "        async with self._lock:",
  "            data = await asyncio.to_thread(self._read)",
  "            data[key] = value",
  "            try:",
  "                await asyncio.to_thread(self._write, data)",
  "            except OSError as exc:",
  "                logger.error(\"record store write failed: %s\", exc)",
  "                return False",
  "        return True",
  "",
  "    async def load(self, key):",
  "        async with self._lock:",
  "            data = await asyncio.to_thread(self._read)",
  "        return data.get(key, \"\")",
  "",
  "    async def delete(self, key):",
  "        async with self._lock:",
  "            data = await asyncio.to_thread(self._read)",
  "            if key not in data:",
  "                return False",
  "            del data[key]",
  "            try:",
  "                await asyncio.to_thread(self._write, data)",
  "            except OSError as exc:",
  "                logger.error(\"record store write failed: %s\", exc)",
  "                return False",
  "        return True",
  "",
  "",
  "# ── Sessions ─────────────────────────────────────────────────────────────────",
  "",
  "class Session:",
  "    \"\"\"One end-user's run through the flow.\"\"\"",
  "",
  "    def __init__(self, key):",
  "        self.key = key",
  "        self.lock = asyncio.Lock()",
  "        self.reset()",
  "",
  "    def reset(self):",
  "        self.vars = \x7b\x7d",
  "        self.cart = \x7b\x7d",
  "        self.current = None",
  "        self.waiting = None      # \"input\" | \"callback\" | None",
  "        self.form_index = 0",
  "        self.loop_frames = []",
  "",
  "",
  "# ── Transport ────────────────────────────────────────────────────────────────",
  "",
  "class Transport:",
  "    \"\"\"Messaging primitives the runtime calls; main() binds them to Telegram.\"\"\"",
  "",
  "    async def send_text(self, chat_id, text, buttons=None, options=None):",
  "        raise NotImplementedError",
  "",
  "    async def send_image(self, chat_id, image, caption):",
  "        raise NotImplementedError",
  "",
  "    async def send_invoice(self, chat_id, title, description, currency, amount, provider_token, payload):",
  "        raise NotImplementedError",
  "",
  "    async def sleep(self, seconds):",
  "        await asyncio.sleep(seconds)"]

/-- The part of the runtime that does not depend on the kinds of the blocks. -/
def driverLines : List String := [
  "def __init__(self, transport, store=None):",
  "    self.transport = transport",
  "    self.store = store if store is not None else RecordStore()",
  "    # One Session per chat for the life of the process; idle chats are not evicted.",
  "    self.sessions = \x7b\x7d",
  "",
  "def session(self, key):",
  "    session = self.sessions.get(key)",
  "    if session is None:",
  "        session = self.sessions[key] = Session(key)",
  "    return session",
  "",
  "async def say(self, session, text, buttons=None, options=None):",
  "    try:",
  "        await self.transport.send_text(session.key, text, buttons=buttons, options=options)",
  "    except Exception as exc:",
  "        logger.error(\"delivery to %s failed: %s\", session.key, exc)",
  "",
  "# ── Events ──────────────────────────────────────────────────────────────",
  "",
  "async def start(self, key):",
  "    session = self.session(key)",
  "    async with session.lock:",
  "        session.reset()",
  "        if START_MESSAGE:",
  "            await self.say(session, substitute_variables(START_MESSAGE, session.vars))",
  "        await self.execute_node(session, ENTRY_NODE_ID)",
  "",
  "async def on_text(self, key, text):",
  "    session = self.session(key)",
  "    async with session.lock:",
  "        node = BLOCKS_GRAPH.get(session.current) if session.waiting == \"input\" else None",
  "        if node is None or node[\"type\"] not in self.RESUME_INPUT:",
  "            await self.say(session, RESTART_HINT)",
  "            return",
  "        port = await self._guarded(session, node, self.RESUME_INPUT[node[\"type\"]], text)",
  "        if port is not None:",
  "            session.waiting = None",
  "            await self.execute_node(session, node[\"outputs\"].get(port))",
  "",
  "async def on_callback(self, key, tag):",
  "    session = self.session(key)",
  "    async with session.lock:",
  "        node = BLOCKS_GRAPH.get(session.current) if session.waiting == \"callback\" else None",
  "        if node is None or node[\"type\"] not in self.RESUME_CALLBACK:",
  "            logger.info(\"ignoring stale callback %r from %s\", tag, key)",
  "            return",
  "        port = await self._guarded(session, node, self.RESUME_CALLBACK[node[\"type\"]], tag)",
  "        if port is not None:",
  "            session.waiting = None",
  "            await self.execute_node(session, node[\"outputs\"].get(port))",
  "",
  "# ── Driver ──────────────────────────────────────────────────────────────",
  "",
  "async def _guarded(self, session, node, method, *args):",
  "    try:",
  "        return await getattr(self, method)(session, node, *args)",
  "    except Exception:",
  "        logger.exception(\"node %s failed for session %s\", node[\"id\"], session.key)",
  "        session.waiting = None",
  "        session.current = None",
  "        await self.say(session, \"Something went wrong. \" + RESTART_HINT)",
  "        return None",
  "",
  "def _next_from_loop(self, session):",
  "    while session.loop_frames:",
  "        frame = session.loop_frames[-1]",
  "        port = self._loop_port(session, frame)",
  "        target = BLOCKS_GRAPH[frame[\"node\"]][\"outputs\"].get(port)",
  "        if target is not None:",
  "            return target",
  "    return None",
  "",
  "async def execute_node(self, session, node_id):",
  "    \"\"\"Run from node_id until the session parks or the flow ends.\"\"\"",
  "    while True:",
  "        if node_id is None:",
  "            node_id = self._next_from_loop(session)",
  "            if node_id is None:",
  "                session.current = None",
  "                return",
  "        node = BLOCKS_GRAPH.get(node_id)",
  "        if node is None:",
  "            logger.error(\"unknown node %s\", node_id)",
  "            session.current = None",
  "            return",
  "        session.current = node_id",
  "        port = await self._guarded(session, node, self.HANDLERS[node[\"type\"]])",
  "        if port is None:",
  "            return",
  "        node_id = node[\"outputs\"].get(port)",
  "",
  "async def _resume_routes(self, session, node, tag):",
  "    return node[\"callbacks\"].get(tag)"]

/-- The transport over the messenger, and the main function. -/
def messengerLines : List String := [
  "# ── Telegram transport (aiogram 3) ───────────────────────────────────────────",
  "",
  "class TelegramTransport(Transport):",
  "",
  "    def __init__(self, bot):",
  "        from aiogram import types",
  "        self.bot = bot",
  "        self.types = types",
  "",
  "    async def send_text(self, chat_id, text, buttons=None, options=None):",
  "        t = self.types",
  "        markup = None",
  "        if buttons:",
  "            markup = t.InlineKeyboardMarkup(inline_keyboard=[",
  "                [t.InlineKeyboardButton(text=label, callback_data=tag)] for label, tag in buttons",
  "            ])",
  "        elif options:",
  "            markup = t.ReplyKeyboardMarkup(",
  "                keyboard=[[t.KeyboardButton(text=option)] for option in options],",
  "                resize_keyboard=True,",
  "                one_time_keyboard=True,",
  "            )",
  "        await self.bot.send_message(chat_id, text or \"…\", reply_markup=markup)",
  "",
  "    async def send_image(self, chat_id, image, caption):",
  "        photo = self.types.FSInputFile(image) if os.path.exists(image) else image",
  "        await self.bot.send_photo(chat_id, photo=photo, caption=caption or None)",
  "",
  "    async def send_invoice(self, chat_id, title, description, currency, amount, provider_token, payload):",
  "        await self.bot.send_invoice(",
  "            chat_id=chat_id,",
  "            title=title,",
  "            description=description,",
  "            payload=payload,",
  "            provider_token=provider_token,",
  "            currency=currency,",
  "            prices=[self.types.LabeledPrice(label=title, amount=amount)],",
  "        )",
  "",
  "",
  "async def main():",
  "    from aiogram import Bot, Dispatcher, F",
  "    from aiogram.filters import CommandStart",
  "",
  "    logging.basicConfig(level=logging.INFO, format=\"%(asctime)s %(levelname)s %(name)s: %(message)s\")",
  "    if not BOT_TOKEN or BOT_TOKEN == \"YOUR_BOT_TOKEN\":",
  "        logger.error(\"BOT_TOKEN is not set\")",
  "        return",
  "",
  "    bot = Bot(token=BOT_TOKEN)",
  "    runtime = FlowRuntime(TelegramTransport(bot), RecordStore(DATABASE_FILE))",
  "    dp = Dispatcher()",
  "",
  "    @dp.message(CommandStart())",
  "    async def on_start(message):",
  "        await runtime.start(message.chat.id)",
  "",
  "    @dp.callback_query()",
  "    async def on_callback(query):",
  "        await query.answer()",
  "        if query.message is not None:",
  "            await runtime.on_callback(query.message.chat.id, query.data or \"\")",
  "",
  "    @dp.message(F.text)",
  "    async def on_text(message):",
  "        await runtime.on_text(message.chat.id, message.text)",
  "",
  "    logger.info(\"%s is running\", BOT_NAME)",
  "    await dp.start_polling(bot)",
  "",
  "",
  "if __name__ == \"__main__\":",
  "    asyncio.run(main())"]

end DialogGraph.Program
