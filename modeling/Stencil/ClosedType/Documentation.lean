import Stencil.Value

/-! The documentation texts that closed types and builtin routines carry. -/

namespace Stencil
namespace ClosedType

def documentation? : ClosedType → Option String
  | .base => some <|
      "The base class of the class hierarchy.\n" ++
      "\n" ++
      "When called, it accepts no arguments and returns a new featureless\n" ++
      "instance that has no instance attributes and cannot be given any.\n"
  | .classes => some <|
      "type(object) -> the object's type\n" ++
      "type(name, bases, dict, **kwds) -> a new type"
  | .enumClasses => some <|
      "\n" ++
      "    Metaclass for Enum\n" ++
      "    "
  | .function => some <|
      "Create a function object.\n" ++
      "\n" ++
      "  code\n" ++
      "    a code object\n" ++
      "  globals\n" ++
      "    the globals dictionary\n" ++
      "  name\n" ++
      "    a string that overrides the name from the code object\n" ++
      "  argdefs\n" ++
      "    a tuple that specifies the default argument values\n" ++
      "  closure\n" ++
      "    a tuple that supplies the bindings for free variables"
  | .method => some <|
      "Create a bound instance method object."
  | .presetCall => some <|
      "partial(func, *args, **keywords) - new function with partial application\n" ++
      "    of the given arguments and keywords.\n"
  | .pattern => some <|
      "Compiled regular expression object."
  | .textStream => some <|
      "Text I/O implementation using an in-memory buffer.\n" ++
      "\n" ++
      "The initial_value argument sets the value of object.  The newline\n" ++
      "argument is like the one of TextIOWrapper's constructor."
  | .byteStream => some <|
      "Buffered I/O implementation using an in-memory bytes buffer."
  | .set => some <|
      "set() -> new empty set object\n" ++
      "set(iterable) -> new set object\n" ++
      "\n" ++
      "Build an unordered collection of unique elements."
  | .frozenSet => some <|
      "frozenset() -> empty frozenset object\n" ++
      "frozenset(iterable) -> frozenset object\n" ++
      "\n" ++
      "Build an immutable unordered collection of unique elements."
  | .integer => some <|
      "int([x]) -> integer\n" ++
      "int(x, base=10) -> integer\n" ++
      "\n" ++
      "Convert a number or string to an integer, or return 0 if no arguments\n" ++
      "are given.  If x is a number, return x.__int__().  For floating point\n" ++
      "numbers, this truncates towards zero.\n" ++
      "\n" ++
      "If x is not a number or if base is given, then x must be a string,\n" ++
      "bytes, or bytearray instance representing an integer literal in the\n" ++
      "given base.  The literal can be preceded by '+' or '-' and be surrounded\n" ++
      "by whitespace.  The base defaults to 10.  Valid bases are 0 and 2-36.\n" ++
      "Base 0 means to interpret the base from the string as an integer literal.\n" ++
      ">>> int('0b100', base=0)\n" ++
      "4"
  | .template => some <|
      "A compiled brace template.\n" ++
      "\n" ++
      "    The template text is compiled once on construction. The default binding\n" ++
      "    can be replaced with bind(); an explicit binding passed to format() wins\n" ++
      "    over it for that call only.\n" ++
      "    "
  | .literal => some <|
      "Raw template text, emitted as-is."
  | .placeholder => some <|
      "Contents of one matched `\x7b...\x7d` pair; nested pairs are child placeholders."
  | .diagnostic => some <|
      "A non-fatal condition found while formatting."
  | .rendering => some <|
      "Formatted text plus any diagnostics raised while producing it."
  | .settings => some <|
      "Settings shared by the resolver and formatter."
  | _ => none

end ClosedType

def Builtin.documentation : Builtin → String
  | .length =>
      "Return the number of items in a container."
  | .maximum =>
      "max(iterable, *[, default=obj, key=func]) -> value\n" ++
      "max(arg1, arg2, *args, *[, key=func]) -> value\n" ++
      "\n" ++
      "With a single iterable argument, return its biggest item. The\n" ++
      "default keyword-only argument specifies an object to return if\n" ++
      "the provided iterable is empty.\n" ++
      "With two or more arguments, return the largest argument."
  | .attributeLookup =>
      "getattr(object, name[, default]) -> value\n" ++
      "\n" ++
      "Get a named attribute from an object; getattr(x, 'y') is equivalent to x.y.\n" ++
      "When a default argument is given, it is returned when the attribute doesn't\n" ++
      "exist; without it, an exception is raised in that case."
  | .upper _ =>
      "Return a copy of the string converted to uppercase."
  | .join _ =>
      "Concatenate any number of strings.\n" ++
      "\n" ++
      "The string whose method is called is inserted in between each given string.\n" ++
      "The result is returned as a new string.\n" ++
      "\n" ++
      "Example: '.'.join(['ab', 'pq', 'rs']) -> 'ab.pq.rs'"
  | .split _ =>
      "Return a list of the substrings in the string, using sep as the separator string.\n" ++
      "\n" ++
      "  sep\n" ++
      "    The separator used to split the string.\n" ++
      "\n" ++
      "    When set to None (the default value), will split on any whitespace\n" ++
      "    character (including \\n \\r \\t \\f and spaces) and will discard\n" ++
      "    empty strings from the result.\n" ++
      "  maxsplit\n" ++
      "    Maximum number of splits.\n" ++
      "    -1 (the default value) means no limit.\n" ++
      "\n" ++
      "Splitting starts at the front of the string and works to the end.\n" ++
      "\n" ++
      "Note, str.split() is mainly useful for data that has been intentionally\n" ++
      "delimited.  With natural text that includes punctuation, consider using\n" ++
      "the regular expression module."
  | .get _ =>
      "Return the value for key if key is in the dictionary, else default."
  | .pop _ =>
      "Remove and return item at index (default last).\n" ++
      "\n" ++
      "Raises IndexError if list is empty or index is out of range."
  | .copy _ =>
      "D.copy() -> a shallow copy of D"

end Stencil
