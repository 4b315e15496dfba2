import ClientGen.Template.Basic

/-!
# Built-in templates

One template for every kind of generated file. A folder of templates can replace each of them by
one of the same name.
-/

namespace ClientGen

namespace BuiltinTemplate

def lines (texts : List String) : TemplateNode := .text (String.intercalate "\n" texts)

def put (path : List String) : TemplateNode := .insert { path }

def putJoined (path : List String) : TemplateNode :=
  .insert { path, filters := [{ name := "join", arguments := [("sep", ", ")] }] }

def each (item : String) (path : List String) (body : Template) : TemplateNode :=
  .loop none item { path } body []

def only (path : List String) (body : Template) : TemplateNode := .branch { path } body []

def either (path : List String) (body otherwise : Template) : TemplateNode :=
  .branch { path } body otherwise

def banner : String := "// Generated by swaggen. Do not edit by hand."

/-- The lines that import the identifiers of other modules. -/
def importLines : TemplateNode :=
  each "line" ["imports"]
    [.text "\nimport \x7b ", putJoined ["line", "names"], .text " \x7d from '",
      put ["line", "path"], .text "';"]

def fieldComment : TemplateNode :=
  only ["field", "description"]
    [.text "\n  /** ", put ["field", "description"], .text " */"]

def interfaceFieldRest : Template :=
  [only ["field", "optional"] [.text "?"], .text ": ", put ["field", "ts_type"], .text ";"]

def model : Template :=
  [lines [banner, "import \x7b z \x7d from 'zod';", ""],
    importLines,
    .text "\n\n",
    either ["alias_expr"]
      [.text "export const ", put ["schema_ident"], .text " = ", put ["alias_expr"], .text ";"]
      [.text "export const ", put ["schema_ident"], .text " = z.object(\x7b",
        each "field" ["fields"]
          [fieldComment,
            .text "\n  ", put ["field", "key"], .text ": ", put ["field", "zod"], .text ","],
        .text "\n\x7d);"],
    .text "\n\nexport type ", put ["type_ident"], .text " = z.infer<typeof ",
    put ["schema_ident"], .text ">;\n"]

def enum : Template :=
  [lines [banner, "import \x7b z \x7d from 'zod';", "", "export const "],
    put ["values_ident"], .text " = [", putJoined ["values"],
    .text "] as const;\n\nexport const ", put ["schema_ident"], .text " = z.enum(",
    put ["values_ident"], .text ");\n\nexport type ", put ["type_ident"],
    .text " = z.infer<typeof ", put ["schema_ident"], .text ">;\n"]

def params : Template :=
  [.text banner,
    importLines,
    .text "\n",
    each "interface" ["interfaces"]
      [.text "\nexport interface ", put ["interface", "name"], .text " \x7b",
        each "field" ["interface", "fields"]
          ([fieldComment, .text "\n  ", put ["field", "key"]] ++ interfaceFieldRest),
        .text "\n\x7d\n"]]

def requestFunction : TemplateNode :=
  lines [
    "",
    "const API_URL: string = (typeof process !== 'undefined' && process.env?.API_URL) || '';",
    "",
    "interface RequestOptions \x7b",
    "  query?: Record<string, unknown>;",
    "  body?: unknown;",
    "  contentType?: string;",
    "\x7d",
    "",
    "const request = async <T>(method: string, url: string, " ++
      "options: RequestOptions = \x7b\x7d): Promise<T> => \x7b",
    "  const search = new URLSearchParams();",
    "  for (const [key, value] of Object.entries(options.query ?? \x7b\x7d)) \x7b",
    "    if (value === undefined || value === null) continue;",
    "    if (Array.isArray(value)) value.forEach((item) => search.append(key, String(item)));",
    "    else search.append(key, String(value));",
    "  \x7d",
    "  const query = search.toString();",
    "",
    "  const headers: Record<string, string> = \x7b Accept: 'application/json' \x7d;",
    "  let body: string | undefined;",
    "  if (options.body !== undefined) \x7b",
    "    const contentType = options.contentType ?? 'application/json';",
    "    headers['Content-Type'] = contentType;",
    "    body =",
    "      contentType === 'application/x-www-form-urlencoded'",
    "        ? new URLSearchParams(options.body as Record<string, string>).toString()",
    "        : JSON.stringify(options.body);",
    "  \x7d",
    "",
    "  const response = await fetch(\x60$\x7bAPI_URL\x7d$\x7burl\x7d" ++
      "$\x7bquery ? \x60?$\x7bquery\x7d\x60 : ''\x7d\x60, \x7b",
    "    method,",
    "    headers,",
    "    body,",
    "    credentials: 'include',",
    "  \x7d);",
    "  if (!response.ok) \x7b",
    "    const detail = await response.text();",
    "    throw new Error(\x60$\x7bmethod\x7d $\x7burl\x7d failed with " ++
      "$\x7bresponse.status\x7d: $\x7bdetail\x7d\x60);",
    "  \x7d",
    "  if (response.status === 204) return undefined as T;",
    "  return (await response.json()) as T;",
    "\x7d;",
    ""]

def serviceFunction : Template :=
  [only ["endpoint", "summary"] [.text "\n/** ", put ["endpoint", "summary"], .text " */"],
    .text "\nexport const ", put ["endpoint", "name"], .text " = async (",
    only ["endpoint", "params_type"] [.text "params: ", put ["endpoint", "params_type"]],
    .text "): Promise<", put ["endpoint", "response_type"],
    .text "> =>\n  request<", put ["endpoint", "response_type"],
    .text ">('", put ["endpoint", "http_method"],
    .text "', \x60", put ["endpoint", "url"], .text "\x60, \x7b",
    only ["endpoint", "query"]
      [.text "\n    query: \x7b ", putJoined ["endpoint", "query"], .text " \x7d,"],
    only ["endpoint", "body"]
      [.text "\n    body: ", put ["endpoint", "body"],
        .text ",\n    contentType: '", put ["endpoint", "content_type"], .text "',"],
    .text "\n  \x7d);\n"]

def service : Template :=
  [.text banner,
    importLines,
    .text "\n",
    each "interface" ["local_interfaces"]
      [.text "\nexport interface ", put ["interface", "name"], .text " \x7b",
        each "field" ["interface", "fields"]
          ([.text "\n  ", put ["field", "key"]] ++ interfaceFieldRest),
        .text "\n\x7d\n"],
    requestFunction,
    each "endpoint" ["endpoints"] serviceFunction]

def thunkFunction : Template :=
  [.text "\nexport const ", put ["endpoint", "name"],
    .text "Thunk = createAsyncThunk<\n  ", put ["endpoint", "response_type"], .text ",\n  ",
    either ["endpoint", "param_interface"]
      [put ["endpoint", "param_interface", "name"]] [.text "void"],
    .text ",\n  \x7b rejectValue: string \x7d\n>('", put ["group", "key"], .text "/",
    put ["endpoint", "name"], .text "', async (",
    either ["endpoint", "param_interface"] [.text "params"] [.text "_"],
    lines [", \x7b rejectWithValue \x7d) => \x7b", "  try \x7b", "    return await "],
    put ["endpoint", "name"], .text "(",
    only ["endpoint", "param_interface"] [.text "params"],
    lines [
      ");",
      "  \x7d catch (error) \x7b",
      "    return rejectWithValue(errorMessage(error));",
      "  \x7d",
      "\x7d);",
      ""]]

def thunk : Template :=
  [lines [banner, "import \x7b createAsyncThunk \x7d from '@reduxjs/toolkit';"],
    importLines,
    lines [
      "",
      "",
      "const errorMessage = (error: unknown): string => " ++
        "(error instanceof Error ? error.message : String(error));",
      ""],
    each "endpoint" ["group", "endpoints"] thunkFunction]

def hookFunction : Template :=
  [.text "\nexport const use", put ["endpoint", "export_name"],
    .text " = () => \x7b\n  const dispatch = ",
    either ["use_store"] [.text "useAppDispatch()"] [.text "useDispatch<any>()"],
    .text ";\n  const [data, setData] = useState<", put ["endpoint", "response_type"],
    lines [
      " | null>(null);",
      "  const [loading, setLoading] = useState(false);",
      "  const [error, setError] = useState<string | null>(null);",
      "",
      "  const execute = useCallback(",
      "    async ("],
    only ["endpoint", "param_interface"]
      [.text "params: ", put ["endpoint", "param_interface", "name"]],
    lines [
      ") => \x7b",
      "      setLoading(true);",
      "      setError(null);",
      "      try \x7b",
      "        const result = await dispatch("],
    put ["endpoint", "name"], .text "Thunk(",
    only ["endpoint", "param_interface"] [.text "params"],
    lines [
      ")).unwrap();",
      "        setData(result);",
      "        return result;",
      "      \x7d catch (err) \x7b",
      "        setError(String(err));",
      "        throw err;",
      "      \x7d finally \x7b",
      "        setLoading(false);",
      "      \x7d",
      "    \x7d,",
      "    [dispatch],",
      "  );",
      "",
      "  return \x7b data, loading, error, execute \x7d;",
      "\x7d;",
      ""]]

def hooks : Template :=
  [lines [banner, "import \x7b useCallback, useState \x7d from 'react';"],
    either ["use_store"]
      [.text "\nimport \x7b useAppDispatch \x7d from '../redux/hooks';"]
      [.text "\nimport \x7b useDispatch \x7d from 'react-redux';"],
    importLines,
    .text "\n",
    each "endpoint" ["group", "endpoints"] hookFunction]

def slice : Template :=
  [lines [banner, "import \x7b createSlice, PayloadAction \x7d from '@reduxjs/toolkit';"],
    importLines,
    .text "\n\nexport interface ", put ["slice", "name"],
    .text "FormState \x7b\n  values: Partial<", put ["type_ident"],
    .text ">;\n  errors: Partial<Record<keyof ", put ["type_ident"],
    lines [", string>>;", "  isDirty: boolean;", "\x7d", "", "const initialState: "],
    put ["slice", "name"],
    lines [
      "FormState = \x7b",
      "  values: \x7b\x7d,",
      "  errors: \x7b\x7d,",
      "  isDirty: false,",
      "\x7d;",
      "",
      "export const "],
    put ["slice", "ident"], .text "Slice = createSlice(\x7b\n  name: '",
    put ["slice", "form_key"],
    lines ["',", "  initialState,", "  reducers: \x7b", "    setField: <K extends keyof "],
    put ["type_ident"], .text ">(\n      state: ", put ["slice", "name"],
    .text "FormState,\n      action: PayloadAction<\x7b field: K; value: ", put ["type_ident"],
    lines ["[K] \x7d>,", "    ) => \x7b", "      (state.values as Partial<"],
    put ["type_ident"],
    lines [
      ">)[action.payload.field] = action.payload.value;",
      "      delete state.errors[action.payload.field];",
      "      state.isDirty = true;",
      "    \x7d,",
      "    setValues: (state, action: PayloadAction<Partial<"],
    put ["type_ident"],
    lines [
      ">>) => \x7b",
      "      state.values = \x7b ...state.values, ...action.payload \x7d as typeof state.values;",
      "      state.isDirty = true;",
      "    \x7d,",
      "    setErrors: (state, action: PayloadAction<"],
    put ["slice", "name"],
    lines [
      "FormState['errors']>) => \x7b",
      "      state.errors = action.payload as typeof state.errors;",
      "    \x7d,",
      "    reset: () => initialState,",
      "  \x7d,",
      "\x7d);",
      "",
      "export const \x7b",
      "  setField: set"],
    put ["slice", "name"], .text "Field,\n  setValues: set",
    put ["slice", "name"], .text "Values,\n  setErrors: set",
    put ["slice", "name"], .text "Errors,\n  reset: reset",
    put ["slice", "name"], .text "Form,\n\x7d = ",
    put ["slice", "ident"], .text "Slice.actions;\n\nexport default ",
    put ["slice", "ident"], .text "Slice.reducer;\n"]

def tags : Template :=
  [lines [banner, "export const TAGS = \x7b"],
    each "tag" ["tags"] [.text "\n  ", put ["tag"], .text ": '", put ["tag"], .text "',"],
    lines [
      "",
      "\x7d as const;",
      "",
      "export type Tag = (typeof TAGS)[keyof typeof TAGS];",
      ""]]

def store : Template :=
  [lines [banner, "import \x7b combineReducers, configureStore \x7d from '@reduxjs/toolkit';"],
    each "slice" ["slices"]
      [.text "\nimport ", put ["slice", "ident"], .text "Reducer from '../slices/",
        put ["slice", "file"], .text "';"],
    .text "\n\nexport const FORM_SLICE = \x7b",
    each "slice" ["slices"]
      [.text "\n  ", put ["slice", "constant"], .text ": '", put ["slice", "form_key"],
        .text "',"],
    .text "\n\x7d as const;\n",
    either ["slices"]
      [.text "\nexport const rootReducer = combineReducers(\x7b",
        each "slice" ["slices"]
          [.text "\n  [FORM_SLICE.", put ["slice", "constant"], .text "]: ",
            put ["slice", "ident"], .text "Reducer,"],
        .text "\n\x7d);"]
      [.text "\nexport const rootReducer = (state: Record<string, never> = \x7b\x7d) => state;"],
    lines [
      "",
      "",
      "export const store = configureStore(\x7b reducer: rootReducer \x7d);",
      "",
      "export type RootState = ReturnType<typeof rootReducer>;",
      "export type AppDispatch = typeof store.dispatch;",
      ""]]

def storeHooks : Template :=
  [lines [
    banner,
    "import \x7b TypedUseSelectorHook, useDispatch, useSelector \x7d from 'react-redux';",
    "import type \x7b AppDispatch, RootState \x7d from './store';",
    "",
    "export const useAppDispatch: () => AppDispatch = useDispatch;",
    "export const useAppSelector: TypedUseSelectorHook<RootState> = useSelector;",
    ""]]

end BuiltinTemplate

def builtinTemplates : List (String × Template) :=
  [("model.ts.tera", BuiltinTemplate.model),
    ("enum.ts.tera", BuiltinTemplate.enum),
    ("params.ts.tera", BuiltinTemplate.params),
    ("service.ts.tera", BuiltinTemplate.service),
    ("thunk.ts.tera", BuiltinTemplate.thunk),
    ("slice.ts.tera", BuiltinTemplate.slice),
    ("tags.ts.tera", BuiltinTemplate.tags),
    ("hooks.ts.tera", BuiltinTemplate.hooks),
    ("store.ts.tera", BuiltinTemplate.store),
    ("redux_hooks.ts.tera", BuiltinTemplate.storeHooks)]

end ClientGen
