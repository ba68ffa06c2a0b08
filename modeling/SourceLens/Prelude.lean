/-!
# The prelude

A stub of the commonly used parts of the standard library, so that common types are known when no
reference is loaded.
-/

namespace SourceLens.Prelude

/-- The name under which the prelude is listed among the references. -/
def name : String :=
  "std_prelude"

/-- The text of the prelude. -/
def text : String :=
  "// Declarations for the commonly used parts of std. Bodies are omitted; only
// names, signatures and docs are read.

/// A UTF-8 encoded, growable string.
pub struct String;

impl String \x7b
    /// Creates a new empty `String`.
    pub fn new() -> String;

    /// Creates a new empty `String` with at least the specified capacity.
    ///
    /// # Arguments
    ///
    /// * `capacity` - Number of bytes to reserve.
    pub fn with_capacity(capacity: usize) -> String;

    /// Returns the length of this `String`, in bytes.
    pub fn len(&self) -> usize;

    /// Returns `true` if this `String` has a length of zero.
    pub fn is_empty(&self) -> bool;

    /// Appends a given string slice onto the end of this `String`.
    ///
    /// # Arguments
    ///
    /// * `string` - The slice to append.
    pub fn push_str(&mut self, string: &str);

    /// Appends the given `char` to the end of this `String`.
    pub fn push(&mut self, ch: char);

    /// Extracts a string slice containing the entire `String`.
    pub fn as_str(&self) -> &str;

    /// Truncates this `String`, removing all contents.
    pub fn clear(&mut self);
\x7d

impl str \x7b
    /// Returns the length of `self` in bytes.
    pub fn len(&self) -> usize;

    /// Returns `true` if `self` has a length of zero bytes.
    pub fn is_empty(&self) -> bool;

    /// Returns a string slice with leading and trailing whitespace removed.
    pub fn trim(&self) -> &str;

    /// Returns `true` if the given pattern matches a sub-slice of this string slice.
    ///
    /// # Arguments
    ///
    /// * `pat` - The pattern to search for.
    pub fn contains(&self, pat: &str) -> bool;

    /// Converts the slice to an owned `String`.
    pub fn to_string(&self) -> String;

    /// Returns the uppercase equivalent of this string slice, as a new `String`.
    pub fn to_uppercase(&self) -> String;

    /// Parses this string slice into another type.
    ///
    /// # Returns
    ///
    /// The parsed value, or the parse error.
    pub fn parse<F>(&self) -> Result<F, ParseError>;
\x7d

/// Error returned by `str::parse`.
pub struct ParseError;

impl i32 \x7b
    /// Computes the absolute value of `self`.
    pub fn abs(self) -> i32;

    /// Raises self to the power of `exp`.
    ///
    /// # Arguments
    ///
    /// * `exp` - The exponent.
    pub fn pow(self, exp: u32) -> i32;

    /// Returns the larger of two values.
    pub fn max(self, other: i32) -> i32;

    /// Returns the smaller of two values.
    pub fn min(self, other: i32) -> i32;

    /// Converts the value to a `String`.
    pub fn to_string(&self) -> String;
\x7d

impl f64 \x7b
    /// Returns the square root of a number.
    pub fn sqrt(self) -> f64;

    /// Computes the absolute value of `self`.
    pub fn abs(self) -> f64;

    /// Returns the nearest integer to `self`.
    pub fn round(self) -> f64;

    /// Raises a number to a floating point power.
    ///
    /// # Arguments
    ///
    /// * `n` - The exponent.
    pub fn powf(self, n: f64) -> f64;
\x7d

/// A contiguous growable array type.
pub struct Vec<T>;

impl<T> Vec<T> \x7b
    /// Constructs a new, empty `Vec<T>`.
    pub fn new() -> Vec<T>;

    /// Constructs a new, empty `Vec<T>` with at least the specified capacity.
    ///
    /// # Arguments
    ///
    /// * `capacity` - Number of elements to reserve.
    pub fn with_capacity(capacity: usize) -> Vec<T>;

    /// Appends an element to the back of a collection.
    ///
    /// # Arguments
    ///
    /// * `value` - The element to append.
    pub fn push(&mut self, value: T);

    /// Removes the last element from a vector and returns it, or `None` if it is empty.
    pub fn pop(&mut self) -> Option<T>;

    /// Returns the number of elements in the vector.
    pub fn len(&self) -> usize;

    /// Returns `true` if the vector contains no elements.
    pub fn is_empty(&self) -> bool;

    /// Inserts an element at position `index`, shifting all elements after it to the right.
    ///
    /// # Arguments
    ///
    /// * `index` - Position to insert at.
    /// * `element` - The element to insert.
    pub fn insert(&mut self, index: usize, element: T);

    /// Clears the vector, removing all values.
    pub fn clear(&mut self);
\x7d

/// A hash map.
pub struct HashMap<K, V>;

impl<K, V> HashMap<K, V> \x7b
    /// Creates an empty `HashMap`.
    pub fn new() -> HashMap<K, V>;

    /// Inserts a key-value pair into the map.
    ///
    /// # Arguments
    ///
    /// * `k` - The key.
    /// * `v` - The value.
    ///
    /// # Returns
    ///
    /// The previous value for the key, if any.
    pub fn insert(&mut self, k: K, v: V) -> Option<V>;

    /// Returns a reference to the value corresponding to the key.
    pub fn get(&self, k: &K) -> Option<&V>;

    /// Returns the number of elements in the map.
    pub fn len(&self) -> usize;

    /// Returns `true` if the map contains a value for the specified key.
    pub fn contains_key(&self, k: &K) -> bool;
\x7d

/// The `Option` type.
pub enum Option<T> \x7b
    /// No value.
    None,
    /// Some value of type `T`.
    Some(T),
\x7d

impl<T> Option<T> \x7b
    /// Returns `true` if the option is a `Some` value.
    pub fn is_some(&self) -> bool;

    /// Returns `true` if the option is a `None` value.
    pub fn is_none(&self) -> bool;

    /// Returns the contained `Some` value or a provided default.
    ///
    /// # Arguments
    ///
    /// * `default` - Value used for `None`.
    pub fn unwrap_or(self, default: T) -> T;
\x7d

/// `Result` is a type that represents either success (`Ok`) or failure (`Err`).
pub enum Result<T, E> \x7b
    /// Contains the success value.
    Ok(T),
    /// Contains the error value.
    Err(E),
\x7d

impl<T, E> Result<T, E> \x7b
    /// Returns `true` if the result is `Ok`.
    pub fn is_ok(&self) -> bool;

    /// Returns `true` if the result is `Err`.
    pub fn is_err(&self) -> bool;

    /// Converts from `Result<T, E>` to `Option<T>`.
    pub fn ok(self) -> Option<T>;
\x7d

/// Disposes of a value.
///
/// # Arguments
///
/// * `x` - The value to drop.
pub fn drop<T>(x: T);

/// Compares and returns the maximum of two values.
///
/// # Arguments
///
/// * `v1` - The first value.
/// * `v2` - The second value.
///
/// # Returns
///
/// The larger value; `v2` if they are equal.
pub fn max<T>(v1: T, v2: T) -> T;

/// Compares and returns the minimum of two values.
///
/// # Arguments
///
/// * `v1` - The first value.
/// * `v2` - The second value.
pub fn min<T>(v1: T, v2: T) -> T;
"

end SourceLens.Prelude
