/-!
The first program that a Python interpreter is given for a run. It takes the submitted program as
one line of JSON from its input, runs it, asks for input by a marked line of output, and reports
an exception by another.
-/

namespace Tutor

/-- The lines of the program. -/
def preludeLines : List String := [
  "import builtins",
  "import io",
  "import json",
  "import sys",
  "import traceback",
  "",
  "_INPUT = \"\\x00PYEXPLAIN_INPUT\\x00\"",
  "_ERROR = \"\\x00PYEXPLAIN_ERROR\\x00\"",
  "_out = sys.stdout",
  "_in = sys.stdin",
  "",
  "",
  "def _input(prompt=\"\"):",
  "    _out.write(_INPUT + json.dumps(str(prompt)) + \"\\n\")",
  "    _out.flush()",
  "    answer = _in.readline()",
  "    if not answer:",
  "        return \"\"",
  "    return json.loads(answer)",
  "",
  "",
  "builtins.input = _input",
  "sys.stderr = sys.stdout",
  "",
  "_source = json.loads(_in.readline())",
  "",
  "",
  "class _Stdin(io.TextIOBase):",
  "    \"\"\"Reads go through the input hook; a dismissed prompt is end of file.\"\"\"",
  "",
  "    def readable(self):",
  "        return True",
  "",
  "    def readline(self, size=-1):",
  "        answer = _input(\"\")",
  "        return answer + \"\\n\" if answer else \"\"",
  "",
  "    def read(self, size=-1):",
  "        return \"\".join(iter(self.readline, \"\"))",
  "",
  "",
  "sys.stdin = _Stdin()",
  "_scope = \x7b\"__name__\": \"__main__\", \"__builtins__\": builtins\x7d",
  "",
  "",
  "def _report():",
  "    kind, value, tb = sys.exc_info()",
  "    text = \"\".join(traceback.format_exception(kind, value, tb.tb_next if tb else None))",
  "    _out.flush()",
  "    _out.write(_ERROR + json.dumps(text) + \"\\n\")",
  "    _out.flush()",
  "    sys.exit(1)",
  "",
  "",
  "try:",
  "    exec(compile(_source, \"<string>\", \"exec\"), _scope)",
  "except SystemExit as _exit:",
  "    if _exit.code not in (None, 0):",
  "        _report()",
  "except BaseException:",
  "    _report()"]

/-- The program. -/
def preludeProgram : String := String.join (preludeLines.map (· ++ "\n"))

end Tutor
