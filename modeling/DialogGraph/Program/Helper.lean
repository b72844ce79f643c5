/-!
# Helper functions of a program

A program carries those functions that its blocks need. They do in the program what the modules on
scripts do in a preview.
-/

namespace DialogGraph.Program

inductive Helper where
  | substituteVariables
  | checkCondition
  | safeInt
  | safeFloat
  | safeCalculate
  | parseCatalog
  | catalogPage
  | selectProduct
  | updateCart
  | cartSummary
  | formFieldPrompt
  | paymentMinorUnits
  | startLoopFrame
  | advanceLoop
  deriving Repr, DecidableEq

namespace Helper

/-- All helper functions, in the order in which a program holds them. -/
def all : List Helper := [
  substituteVariables, checkCondition, safeInt, safeFloat, safeCalculate, parseCatalog,
  catalogPage, selectProduct, updateCart, cartSummary, formFieldPrompt, paymentMinorUnits,
  startLoopFrame, advanceLoop]

def name : Helper → String
  | substituteVariables => "substitute_variables"
  | checkCondition => "check_condition"
  | safeInt => "safe_int"
  | safeFloat => "safe_float"
  | safeCalculate => "safe_calculate"
  | parseCatalog => "parse_catalog"
  | catalogPage => "catalog_page"
  | selectProduct => "select_product"
  | updateCart => "update_cart"
  | cartSummary => "cart_summary"
  | formFieldPrompt => "form_field_prompt"
  | paymentMinorUnits => "payment_minor_units"
  | startLoopFrame => "start_loop_frame"
  | advanceLoop => "advance_loop"

def lines : Helper → List String
  | substituteVariables => [
    "def substitute_variables(text, variables):",
    "    \"\"\"Replace every \x7bname\x7d bound in `variables` with str(value); leave the rest verbatim.\"\"\"",
    "    if not text:",
    "        return \"\"",
    "",
    "    def _replace(match):",
    "        name = match.group(1)",
    "        if name in variables:",
    "            return str(variables[name])",
    "        return match.group(0)",
    "",
    "    return re.sub(r\"\\\x7b([^\x7b\x7d]+)\\\x7d\", _replace, str(text))"]
  | checkCondition => [
    "def check_condition(actual, condition, expected):",
    "    \"\"\"String comparison for condition nodes and while-loops.\"\"\"",
    "    actual = \"\" if actual is None else str(actual)",
    "    expected = \"\" if expected is None else str(expected)",
    "    if condition == \"equals\":",
    "        return actual == expected",
    "    if condition == \"not_equals\":",
    "        return actual != expected",
    "    if condition == \"contains\":",
    "        return expected in actual",
    "    if condition == \"not_empty\":",
    "        return actual.strip() != \"\"",
    "    return False"]
  | safeInt => [
    "def safe_int(value, default=0):",
    "    try:",
    "        return int(float(value))",
    "    except (TypeError, ValueError, OverflowError):",
    "        return default"]
  | safeFloat => [
    "def safe_float(value, default=0.0):",
    "    try:",
    "        return float(value)",
    "    except (TypeError, ValueError):",
    "        return default"]
  | safeCalculate => [
    "def safe_calculate(formula, variables):",
    "    \"\"\"",
    "    Evaluate a restricted arithmetic formula after variable substitution.",
    "",
    "    Only digits, '.', '(', ')' and + - * / % survive; anything else, a parse",
    "    error or an arithmetic error yields 0.  Integral results come back as int.",
    "    \"\"\"",
    "    expression = \"\".join(substitute_variables(formula, variables).split())",
    "    if not expression or any(ch not in \"0123456789+-*/%().\" for ch in expression):",
    "        return 0",
    "",
    "    binary = \x7b",
    "        ast.Add: operator.add,",
    "        ast.Sub: operator.sub,",
    "        ast.Mult: operator.mul,",
    "        ast.Div: operator.truediv,",
    "        ast.Mod: operator.mod,",
    "    \x7d",
    "    unary = \x7bast.UAdd: operator.pos, ast.USub: operator.neg\x7d",
    "",
    "    def _eval(node):",
    "        if isinstance(node, ast.Expression):",
    "            return _eval(node.body)",
    "        if isinstance(node, ast.Constant) and type(node.value) in (int, float):",
    "            return node.value",
    "        if isinstance(node, ast.BinOp) and type(node.op) in binary:",
    "            return binary[type(node.op)](_eval(node.left), _eval(node.right))",
    "        if isinstance(node, ast.UnaryOp) and type(node.op) in unary:",
    "            return unary[type(node.op)](_eval(node.operand))",
    "        raise ValueError(f\"unsupported expression: \x7bast.dump(node)\x7d\")",
    "",
    "    try:",
    "        result = _eval(ast.parse(expression, mode=\"eval\"))",
    "    except (SyntaxError, ValueError, ArithmeticError, RecursionError):",
    "        return 0",
    "    if isinstance(result, float) and result.is_integer():",
    "        return int(result)",
    "    return result"]
  | parseCatalog => [
    "def parse_catalog(source, text):",
    "    \"\"\"Products from JSON (a list, or \x7b\"products\": [...]\x7d) or CSV with a header row.  Malformed input gives [].\"\"\"",
    "    text = (text or \"\").strip()",
    "    if not text:",
    "        return []",
    "",
    "    products = []",
    "    if source == \"csv\":",
    "        rows = list(csv.reader(io.StringIO(text)))",
    "        for row in rows[1:]:",
    "            if not row or not row[0].strip():",
    "                continue",
    "            products.append(\x7b",
    "                \"name\": row[0].strip(),",
    "                \"price\": row[1].strip() if len(row) > 1 else \"0\",",
    "                \"description\": row[2].strip() if len(row) > 2 else \"\",",
    "            \x7d)",
    "        return products",
    "",
    "    try:",
    "        data = json.loads(text)",
    "    except ValueError:",
    "        return []",
    "    if isinstance(data, dict):",
    "        data = data.get(\"products\", [])",
    "    if not isinstance(data, list):",
    "        return []",
    "    for item in data:",
    "        if isinstance(item, dict) and item.get(\"name\"):",
    "            products.append(\x7b",
    "                \"name\": str(item[\"name\"]),",
    "                \"price\": item.get(\"price\", 0),",
    "                \"description\": str(item.get(\"description\", \"\")),",
    "            \x7d)",
    "    return products"]
  | catalogPage => [
    "def catalog_page(products, page):",
    "    \"\"\"Clamp `page` and return (page, total_pages, [(global_index, product), ...]).\"\"\"",
    "    total_pages = max(1, -(-len(products) // CATALOG_PAGE_SIZE))",
    "    page = min(max(0, safe_int(page)), total_pages - 1)",
    "    start = page * CATALOG_PAGE_SIZE",
    "    return page, total_pages, list(enumerate(products[start:start + CATALOG_PAGE_SIZE], start))"]
  | selectProduct => [
    "def select_product(products, tag, variables):",
    "    \"\"\"Bind the product named by a catalog_product_N tag.  Returns False for a stale tag.\"\"\"",
    "    index = safe_int(tag[len(CATALOG_PRODUCT_PREFIX):], -1)",
    "    if not 0 <= index < len(products):",
    "        return False",
    "    product = products[index]",
    "    variables[\"product_name\"] = product[\"name\"]",
    "    variables[\"product_price\"] = safe_float(product[\"price\"])",
    "    variables[\"product_description\"] = product[\"description\"]",
    "    variables[\"selected_product_number\"] = index + 1",
    "    return True"]
  | updateCart => [
    "def update_cart(cart, action, product_id, quantity):",
    "    \"\"\"Apply add/remove/clear to `cart` in place; show and count are read-only.\"\"\"",
    "    if action == \"add\" and product_id not in (None, \"\"):",
    "        key = str(product_id)",
    "        cart[key] = cart.get(key, 0) + max(1, safe_int(quantity, 1))",
    "    elif action == \"remove\" and product_id not in (None, \"\"):",
    "        cart.pop(str(product_id), None)",
    "    elif action == \"clear\":",
    "        cart.clear()"]
  | cartSummary => [
    "def cart_summary(cart):",
    "    if not cart:",
    "        return CART_EMPTY_MESSAGE",
    "    lines = [\"🛒 Your cart:\"]",
    "    for product_id, quantity in cart.items():",
    "        lines.append(f\"• \x7bproduct_id\x7d × \x7bquantity\x7d\")",
    "    return \"\\n\".join(lines)"]
  | formFieldPrompt => [
    "def form_field_prompt(field_type):",
    "    return f\"Please enter \x7bFORM_FIELD_LABELS.get(field_type, field_type)\x7d:\""]
  | paymentMinorUnits => [
    "def payment_minor_units(amount):",
    "    \"\"\"Amount in minor currency units (x100), or 0 when it is not a positive number.\"\"\"",
    "    value = safe_float(amount) * 100",
    "    if not value > 0 or value == float(\"inf\"):",
    "        return 0",
    "    return int(round(value))"]
  | startLoopFrame => [
    "def start_loop_frame(node_id, config, variables):",
    "    items = []",
    "    if config.get(\"loop_type\") == \"list\":",
    "        raw = substitute_variables(config.get(\"list_items\", \"\"), variables)",
    "        items = [item.strip() for item in raw.split(\",\") if item.strip()]",
    "    return \x7b\"node\": node_id, \"iteration\": 0, \"items\": items\x7d"]
  | advanceLoop => [
    "def advance_loop(config, frame, variables):",
    "    \"\"\"",
    "    Decide the next iteration of a loop frame.  Returns True when the body",
    "    should run again (the counter and list variables are already bound),",
    "    False when the loop is finished.",
    "    \"\"\"",
    "    mode = config.get(\"loop_type\", \"count\")",
    "    iteration = frame[\"iteration\"]",
    "",
    "    if mode == \"while\":",
    "        more = iteration < LOOP_WHILE_LIMIT and check_condition(",
    "            variables.get(config.get(\"while_variable\", \"\"), \"\"),",
    "            config.get(\"while_condition\", \"equals\"),",
    "            substitute_variables(config.get(\"while_value\", \"\"), variables),",
    "        )",
    "    elif mode == \"list\":",
    "        more = iteration < len(frame[\"items\"])",
    "        if more and config.get(\"list_variable\"):",
    "            variables[config[\"list_variable\"]] = frame[\"items\"][iteration]",
    "    else:",
    "        more = iteration < safe_int(config.get(\"count\", 0))",
    "",
    "    if not more:",
    "        return False",
    "    frame[\"iteration\"] = iteration + 1",
    "    if config.get(\"counter_variable\"):",
    "        variables[config[\"counter_variable\"]] = iteration + 1",
    "    return True"]

end Helper

/-- The lines that ask a language model for a completion, with the import they need. -/
def completionLines : List String := [
  "from openai import AsyncOpenAI",
  "",
  "",
  "async def request_completion(prompt, *, api_key=\"\", model=\"gpt-3.5-turbo\", max_tokens=500, temperature=0.7):",
  "    key = api_key or os.environ.get(\"OPENAI_API_KEY\", \"\")",
  "    if not key:",
  "        return \"Error: OpenAI API key is not configured\"",
  "    try:",
  "        client = AsyncOpenAI(api_key=key)",
  "        response = await client.chat.completions.create(",
  "            model=model,",
  "            messages=[\x7b\"role\": \"user\", \"content\": prompt\x7d],",
  "            max_tokens=max_tokens,",
  "            temperature=temperature,",
  "        )",
  "        return response.choices[0].message.content or \"\"",
  "    except Exception as exc:",
  "        logger.warning(\"completion request failed: %s\", exc)",
  "        return f\"Error: \x7bexc\x7d\""]

end DialogGraph.Program
