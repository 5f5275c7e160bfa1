import Whittle.Callable.Signature

namespace Whittle.Builtin

def fixed : List (String × List String) :=
  [("abs", ["x"]), ("aiter", ["async_iterable"]), ("all", ["iterable"]), ("any", ["iterable"]), ("ascii", ["obj"]),
   ("bin", ["number"]), ("callable", ["obj"]), ("chr", ["i"]),
   ("compile", ["source", "filename", "mode", "flags", "dont_inherit", "optimize"]), ("copyright", []), ("credits", []),
   ("delattr", ["obj", "name"]), ("divmod", ["x", "y"]), ("eval", ["source", "globals", "locals"]),
   ("exec", ["source", "globals", "locals"]), ("exit", ["code"]), ("format", ["value", "format_spec"]), ("globals", []),
   ("hasattr", ["obj", "name"]), ("hash", ["obj"]), ("hex", ["number"]), ("id", ["obj"]), ("input", ["prompt"]),
   ("isinstance", ["obj", "class_or_tuple"]), ("issubclass", ["cls", "class_or_tuple"]), ("len", ["obj"]), ("license", []),
   ("locals", []), ("oct", ["number"]),
   ("open", ["file", "mode", "buffering", "encoding", "errors", "newline", "closefd", "opener"]), ("ord", ["c"]),
   ("pow", ["base", "exp", "mod"]), ("quit", ["code"]), ("repr", ["obj"]), ("round", ["number", "ndigits"]),
   ("setattr", ["obj", "name", "value"]), ("sorted", ["iterable"]), ("sum", ["iterable", "start"]),
   ("__import__", ["name", "globals", "locals", "fromlist", "level"]),
   ("__delattr__", ["name"]), ("__eq__", ["value"]), ("__ne__", ["value"]), ("__lt__", ["value"]), ("__le__", ["value"]),
   ("__gt__", ["value"]), ("__ge__", ["value"]), ("__format__", ["format_spec"]), ("__getattribute__", ["name"]),
   ("__getstate__", []), ("__hash__", []), ("__reduce__", []), ("__reduce_ex__", ["protocol"]), ("__repr__", []),
   ("__setattr__", ["name", "value"]), ("__sizeof__", []), ("__str__", [])]

def variadic : List String := ["help", "print", "__init__", "__new__"]

def variant? (name : String) : Option Variant :=
  if variadic.contains name then some ⟨[], true⟩ else (fixed.lookup name).map (⟨·, false⟩)

end Whittle.Builtin
