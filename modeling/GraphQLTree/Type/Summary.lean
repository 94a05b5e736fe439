import GraphQLTree.Error.Class

/-! # Summaries

What types and functions say about themselves when they are asked for a summary. A type without a
summary of its own says nothing, whatever the types say that it is derived from. -/

namespace GraphQLTree

/-- A text of several lines. -/
def lines (texts : List String) : String :=
  "\n".intercalate texts

/-- The summary of a basic type. -/
def BasicType.summary? : BasicType → Option String
  | object => some <| lines
      ["The base class of the class hierarchy.", "",
       "When called, it accepts no arguments and returns a new featureless",
       "instance that has no instance attributes and cannot be given any.", ""]
  | bool => some <| lines
      ["bool(x) -> bool", "", "Returns True when the argument x is true, False otherwise.",
       "The builtins True and False are the only two instances of the class bool.",
       "The class bool is a subclass of the class int, and cannot be subclassed."]
  | int => some <| lines
      ["int([x]) -> integer", "int(x, base=10) -> integer", "",
       "Convert a number or string to an integer, or return 0 if no arguments",
       "are given.  If x is a number, return x.__int__().  For floating point",
       "numbers, this truncates towards zero.", "",
       "If x is not a number or if base is given, then x must be a string,",
       "bytes, or bytearray instance representing an integer literal in the",
       "given base.  The literal can be preceded by '+' or '-' and be surrounded",
       "by whitespace.  The base defaults to 10.  Valid bases are 0 and 2-36.",
       "Base 0 means to interpret the base from the string as an integer literal.",
       ">>> int('0b100', base=0)", "4"]
  | float => some "Convert a string or number to a floating point number, if possible."
  | complex => some <| lines
      ["Create a complex number from a real part and an optional imaginary part.", "",
       "This is equivalent to (real + imag*1j) where imag defaults to 0."]
  | text => some <| lines
      ["str(object='') -> str", "str(bytes_or_buffer[, encoding[, errors]]) -> str", "",
       "Create a new string object from the given object. If encoding or",
       "errors is specified, then the object must expose a data buffer",
       "that will be decoded using the given encoding and error handler.",
       "Otherwise, returns the result of object.__str__() (if defined)", "or repr(object).",
       "encoding defaults to sys.getdefaultencoding().", "errors defaults to 'strict'."]
  | bytes => some <| lines
      ["bytes(iterable_of_ints) -> bytes", "bytes(string, encoding[, errors]) -> bytes",
       "bytes(bytes_or_buffer) -> immutable copy of bytes_or_buffer",
       "bytes(int) -> bytes object of size given by the parameter initialized with null bytes",
       "bytes() -> empty bytes object", "", "Construct an immutable array of bytes from:",
       "  - an iterable yielding integers in range(256)",
       "  - a text string encoded using the specified encoding",
       "  - any object implementing the buffer API.", "  - an integer"]
  | buffer => some <| lines
      ["bytearray(iterable_of_ints) -> bytearray",
       "bytearray(string, encoding[, errors]) -> bytearray",
       "bytearray(bytes_or_buffer) -> mutable copy of bytes_or_buffer",
       "bytearray(int) -> bytes array of size given by the parameter initialized with null bytes",
       "bytearray() -> empty bytes array", "", "Construct a mutable bytearray object from:",
       "  - an iterable yielding integers in range(256)",
       "  - a text string encoded using the specified encoding", "  - a bytes or a buffer object",
       "  - any object implementing the buffer API.", "  - an integer"]
  | list => some <| lines
      ["Built-in mutable sequence.", "",
       "If no argument is given, the constructor creates a new empty list.",
       "The argument must be an iterable if specified."]
  | tuple => some <| lines
      ["Built-in immutable sequence.", "",
       "If no argument is given, the constructor returns an empty tuple.",
       "If iterable is specified the tuple is initialized from iterable's items.", "",
       "If the argument is a tuple, the return value is the same object."]
  | dict => some <| lines
      ["dict() -> new empty dictionary",
       "dict(mapping) -> new dictionary initialized from a mapping object's",
       "    (key, value) pairs", "dict(iterable) -> new dictionary initialized as if via:",
       "    d = \x7b\x7d", "    for k, v in iterable:", "        d[k] = v",
       "dict(**kwargs) -> new dictionary initialized with the name=value pairs",
       "    in the keyword argument list.  For example:  dict(one=1, two=2)"]
  | set => some <| lines
      ["set() -> new empty set object", "set(iterable) -> new set object", "",
       "Build an unordered collection of unique elements."]
  | frozenSet => some <| lines
      ["frozenset() -> empty frozenset object", "frozenset(iterable) -> frozenset object", "",
       "Build an immutable unordered collection of unique elements."]
  | frozen => some <| lines
      ["Ordered sequence of child nodes that can only be read, but not changed.", "",
       "    Appending to a node's children creates a new FrozenList, so a sequence that has",
       "    been handed out before always stays a complete snapshot.", "    "]
  | version => some "Version of the package in the same form as ``sys.version_info``"
  | action => some "Special return values for the enter methods of a visitor."
  | visitor => some <| lines
      ["Visitor that walks through an AST.", "",
       "    Visitors define node kind specific methods by prefixing the kind of the node with",
       "    ``enter_`` or ``leave_``. For instance, to visit selection field nodes, you would",
       "    define the methods ``enter_selection_field()`` and/or ``leave_selection_field()``.",
       "    No method needs to be defined; missing methods are simply not called.",
       "    These methods have the following signature::", "",
       "        def enter_selection_field(self, node, context):",
       "            # The return value has the following meaning:",
       "            # IDLE (None): no action",
       "            # SKIP (or False): do not visit the child nodes of this node",
       "            return", "", "        def leave_selection_field(self, node, context):",
       "            # The return value is ignored.", "            return", "",
       "    The ``context`` is the value that has been passed to :func:`~.visit` and is the",
       "    same for all calls.", "",
       "    The methods ``enter_definition()`` and ``leave_definition()`` are called for every",
       "    element of a definition list before its actual kind is determined, and the same",
       "    holds for ``enter_selection()`` and ``leave_selection()``.", "",
       "    Ordered sequences of child nodes can be visited as a whole by appending ``_list``",
       "    to the kind of the list grouping, as in ``enter_selection_list()``. These methods",
       "    get only the context and are only called if the sequence is not empty.", "",
       "    Raising an error that carries a ``prune`` flag, such as",
       "    :class:`~graphql_walker.error.PruneError`, has the same effect as returning SKIP",
       "    (if the flag is set) or IDLE (if it is not set). Raising any other error aborts the",
       "    whole walk, and :func:`~.visit` raises a",
       "    :class:`~graphql_walker.error.VisitError` wrapping it.", "    "]
  | lockstep => some <| lines
      ["A Visitor which delegates to many visitors to run in parallel.", "",
       "    Each visitor will be visited for each node before moving on.", "",
       "    A visitor that skips a node does not get any calls for the child nodes of that",
       "    node, but its leave method for that node is still called. The other visitors are",
       "    not affected. If all visitors skip a node, the walk skips the child nodes.", "    "]
  | _ => none

/-- The summary of a class of nodes of the library. -/
def nodeSummary? : String → Option String
  | "Node" => some <| lines
      ["AST nodes", "",
       "    Nodes are created once with keyword arguments and are read-only afterwards, except",
       "    that container nodes can have children appended while the tree is being built.",
       "    Ordered child sequences are stored as a FrozenList, and appending replaces the",
       "    sequence, so a sequence obtained earlier stays an unchanged snapshot.", "    "]
  | "SchemaNode" => some <| lines
      ["Root of a type system description.", "",
       "    The query root type is held separately from the other types. Nothing prevents",
       "    the query root from also being added to the other types.", "    "]
  | "ObjectFieldNode" => some "A field of an object literal (not of an object type)"
  | _ => none

/-- The summary of a class of errors. -/
def ErrorClass.summary? : ErrorClass → Option String
  | base => some "Common base class for all exceptions"
  | general => some "Common base class for all non-exit exceptions."
  | badValue => some "Inappropriate argument value (of correct type)."
  | badCoding => some "Unicode related error."
  | badEncoding => some "Unicode encoding error."
  | badDecoding => some "Unicode decoding error."
  | busyBuffer => some "Buffer error."
  | lookUp => some "Base class for lookup errors."
  | missingKey => some "Mapping key not found."
  | badIndex => some "Sequence index out of range."
  | runtime => some "Unspecified run-time error."
  | badType => some "Inappropriate argument type."
  | badAttribute => some "Attribute not found."
  | arithmetic => some "Base class for arithmetic errors."
  | zeroDivision => some "Second argument to a division or modulo operation was zero."
  | overflow => some "Result too large to be represented."
  | stopIteration => some "Signal the end from iterator.__next__()."
  | interrupt => some "Program interrupted by user."
  | prune => some <| lines
      ["Prune signal", "",
       "    Raising a PruneError from an enter method tells the walker not to visit the child",
       "    nodes of the node being entered. The matching leave method is still called.", "",
       "    The walker does not check for this class, but for a boolean ``prune`` attribute,",
       "    so any other exception providing one works the same way. An exception with",
       "    ``prune`` set to False lets the walk continue as if nothing had been raised.", "    "]
  | visit => some <| lines
      ["Visit Error", "",
       "    A VisitError describes a fatal error that aborted the walk over an AST. Besides",
       "    the message of the original error, it records the stages of the walk the error",
       "    passed through while it was propagated, so that the place in the tree where the",
       "    walk failed can be recovered without depending on the type of the original error.",
       "    "]
  | invalidInput => some
    "Error when the root passed to the walker is neither a document nor a schema."
  | _ => none

/-- The summary of a function of a class of the library. -/
def functionSummary? : (owner name : String) → Option String
  | "Node", "__init__" => some "Initialize the node with the given keyword arguments."
  | "Node", "__repr__" => some "Get a simple representation of the node."
  | "Node", "__eq__" => some "Test whether two nodes are equal (recursively)."
  | "Node", "__hash__" => some "Get a cached hash value for the node."
  | "Node", "__copy__" => some "Create a shallow copy of the node."
  | "Node", "__deepcopy__" => some "Create a deep copy of the node"
  | "Node", "_append" => some
    "Append nodes to the ordered child sequence stored under the given key."
  | "TypeNode", "mark_non_null" => some <| lines
      ["Mark the type as non-null.", "",
       "        Types are nullable unless marked otherwise, and can be marked only once.",
       "        "]
  | "Visitor", "__init_subclass__" => some "Verify that all defined visitor methods are valid."
  | "Visitor", "get_visit_fn" => some
    "Get the visit function for the given node kind and direction."
  | "ParallelVisitor", "__init__" => some
    "Create a new visitor from the given list of parallel visitors."
  | "VisitError", "add_stage" => some "Record an enclosing stage of the walk."
  | "FrozenList", "extended" => some
    "Get a new FrozenList with the given items appended in order."
  | _, _ => none

end GraphQLTree
