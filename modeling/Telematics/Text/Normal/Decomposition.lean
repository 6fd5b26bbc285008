import Telematics.Text.CharacterMap

/-!
Compatibility decompositions of characters, complete ones. Syllables of the Korean alphabet are
left out, since they can be computed.
-/

namespace Telematics.Text

/-- What characters are made of. -/
def decompositions : CharacterMap := [
  ⟨0xa0, [" "]⟩,
  ⟨0xa8, [" \u0308"]⟩,
  ⟨0xaa, ["a"]⟩,
  ⟨0xaf, [" \u0304"]⟩,
  ⟨0xb2, ["2\n3\n \u0301\nμ"]⟩,
  ⟨0xb8, [" \u0327\n1\no"]⟩,
  ⟨0xbc, ["1⁄4\n1⁄2\n3⁄4"]⟩,
  ⟨0xc0, ["A\u0300\nA\u0301\nA\u0302\nA\u0303\nA\u0308\nA\u030a"]⟩,
  ⟨0xc7, ["C\u0327\nE\u0300\nE\u0301\nE\u0302\nE\u0308\nI\u0300\nI\u0301\nI\u0302\nI\u0308"]⟩,
  ⟨0xd1, ["N\u0303\nO\u0300\nO\u0301\nO\u0302\nO\u0303\nO\u0308"]⟩,
  ⟨0xd9, ["U\u0300\nU\u0301\nU\u0302\nU\u0308\nY\u0301"]⟩,
  ⟨0xe0, ["a\u0300\na\u0301\na\u0302\na\u0303\na\u0308\na\u030a"]⟩,
  ⟨0xe7, ["c\u0327\ne\u0300\ne\u0301\ne\u0302\ne\u0308\ni\u0300\ni\u0301\ni\u0302\ni\u0308"]⟩,
  ⟨0xf1, ["n\u0303\no\u0300\no\u0301\no\u0302\no\u0303\no\u0308"]⟩,
  ⟨0xf9, ["u\u0300\nu\u0301\nu\u0302\nu\u0308\ny\u0301"]⟩,
  ⟨0xff, ["y\u0308\nA\u0304\na\u0304\nA\u0306\na\u0306\nA\u0328\na\u0328\nC\u0301\nc\u0301",
    "C\u0302\nc\u0302\nC\u0307\nc\u0307\nC\u030c\nc\u030c\nD\u030c\nd\u030c"]⟩,
  ⟨0x112, ["E\u0304\ne\u0304\nE\u0306\ne\u0306\nE\u0307\ne\u0307\nE\u0328\ne\u0328\nE\u030c",
    "e\u030c\nG\u0302\ng\u0302\nG\u0306\ng\u0306\nG\u0307\ng\u0307\nG\u0327\ng\u0327\nH\u0302",
    "h\u0302"]⟩,
  ⟨0x128, ["I\u0303\ni\u0303\nI\u0304\ni\u0304\nI\u0306\ni\u0306\nI\u0328\ni\u0328\nI\u0307"]⟩,
  ⟨0x132, ["IJ\nij\nJ\u0302\nj\u0302\nK\u0327\nk\u0327"]⟩,
  ⟨0x139, ["L\u0301\nl\u0301\nL\u0327\nl\u0327\nL\u030c\nl\u030c\nL·\nl·"]⟩,
  ⟨0x143, ["N\u0301\nn\u0301\nN\u0327\nn\u0327\nN\u030c\nn\u030c\nʼn"]⟩,
  ⟨0x14c, ["O\u0304\no\u0304\nO\u0306\no\u0306\nO\u030b\no\u030b"]⟩,
  ⟨0x154, ["R\u0301\nr\u0301\nR\u0327\nr\u0327\nR\u030c\nr\u030c\nS\u0301\ns\u0301\nS\u0302",
    "s\u0302\nS\u0327\ns\u0327\nS\u030c\ns\u030c\nT\u0327\nt\u0327\nT\u030c\nt\u030c"]⟩,
  ⟨0x168, ["U\u0303\nu\u0303\nU\u0304\nu\u0304\nU\u0306\nu\u0306\nU\u030a\nu\u030a\nU\u030b",
    "u\u030b\nU\u0328\nu\u0328\nW\u0302\nw\u0302\nY\u0302\ny\u0302\nY\u0308\nZ\u0301\nz\u0301",
    "Z\u0307\nz\u0307\nZ\u030c\nz\u030c\ns"]⟩,
  ⟨0x1a0, ["O\u031b\no\u031b"]⟩,
  ⟨0x1af, ["U\u031b\nu\u031b"]⟩,
  ⟨0x1c4, ["DZ\u030c\nDz\u030c\ndz\u030c\nLJ\nLj\nlj\nNJ\nNj\nnj\nA\u030c\na\u030c\nI\u030c",
    "i\u030c\nO\u030c\no\u030c\nU\u030c\nu\u030c\nU\u0308\u0304\nu\u0308\u0304\nU\u0308\u0301",
    "u\u0308\u0301\nU\u0308\u030c\nu\u0308\u030c\nU\u0308\u0300\nu\u0308\u0300"]⟩,
  ⟨0x1de, ["A\u0308\u0304\na\u0308\u0304\nA\u0307\u0304\na\u0307\u0304\nÆ\u0304\næ\u0304"]⟩,
  ⟨0x1e6, ["G\u030c\ng\u030c\nK\u030c\nk\u030c\nO\u0328\no\u0328\nO\u0328\u0304\no\u0328\u0304",
    "Ʒ\u030c\nʒ\u030c\nj\u030c\nDZ\nDz\ndz\nG\u0301\ng\u0301"]⟩,
  ⟨0x1f8, ["N\u0300\nn\u0300\nA\u030a\u0301\na\u030a\u0301\nÆ\u0301\næ\u0301\nØ\u0301\nø\u0301",
    "A\u030f\na\u030f\nA\u0311\na\u0311\nE\u030f\ne\u030f\nE\u0311\ne\u0311\nI\u030f\ni\u030f",
    "I\u0311\ni\u0311\nO\u030f\no\u030f\nO\u0311\no\u0311\nR\u030f\nr\u030f\nR\u0311\nr\u0311",
    "U\u030f\nu\u030f\nU\u0311\nu\u0311\nS\u0326\ns\u0326\nT\u0326\nt\u0326"]⟩,
  ⟨0x21e, ["H\u030c\nh\u030c"]⟩,
  ⟨0x226, ["A\u0307\na\u0307\nE\u0327\ne\u0327\nO\u0308\u0304\no\u0308\u0304\nO\u0303\u0304",
    "o\u0303\u0304\nO\u0307\no\u0307\nO\u0307\u0304\no\u0307\u0304\nY\u0304\ny\u0304"]⟩,
  ⟨0x2b0, ["h\nɦ\nj\nr\nɹ\nɻ\nʁ\nw\ny"]⟩,
  ⟨0x2d8, [" \u0306\n \u0307\n \u030a\n \u0328\n \u0303\n \u030b"]⟩,
  ⟨0x2e0, ["ɣ\nl\ns\nx\nʕ"]⟩,
  ⟨0x340, ["\u0300\n\u0301"]⟩,
  ⟨0x343, ["\u0313\n\u0308\u0301"]⟩,
  ⟨0x374, ["ʹ"]⟩,
  ⟨0x37a, [" \u0345"]⟩,
  ⟨0x37e, [";"]⟩,
  ⟨0x384, [" \u0301\n \u0308\u0301\nΑ\u0301\n·\nΕ\u0301\nΗ\u0301\nΙ\u0301"]⟩,
  ⟨0x38c, ["Ο\u0301"]⟩,
  ⟨0x38e, ["Υ\u0301\nΩ\u0301\nι\u0308\u0301"]⟩,
  ⟨0x3aa, ["Ι\u0308\nΥ\u0308\nα\u0301\nε\u0301\nη\u0301\nι\u0301\nυ\u0308\u0301"]⟩,
  ⟨0x3ca, ["ι\u0308\nυ\u0308\nο\u0301\nυ\u0301\nω\u0301"]⟩,
  ⟨0x3d0, ["β\nθ\nΥ\nΥ\u0301\nΥ\u0308\nφ\nπ"]⟩,
  ⟨0x3f0, ["κ\nρ\nς"]⟩,
  ⟨0x3f4, ["Θ\nε"]⟩,
  ⟨0x400, ["Е\u0300\nЕ\u0308"]⟩,
  ⟨0x403, ["Г\u0301"]⟩,
  ⟨0x407, ["І\u0308"]⟩,
  ⟨0x40c, ["К\u0301\nИ\u0300\nУ\u0306"]⟩,
  ⟨0x419, ["И\u0306"]⟩,
  ⟨0x439, ["и\u0306"]⟩,
  ⟨0x450, ["е\u0300\nе\u0308"]⟩,
  ⟨0x453, ["г\u0301"]⟩,
  ⟨0x457, ["і\u0308"]⟩,
  ⟨0x45c, ["к\u0301\nи\u0300\nу\u0306"]⟩,
  ⟨0x476, ["Ѵ\u030f\nѵ\u030f"]⟩,
  ⟨0x4c1, ["Ж\u0306\nж\u0306"]⟩,
  ⟨0x4d0, ["А\u0306\nа\u0306\nА\u0308\nа\u0308"]⟩,
  ⟨0x4d6, ["Е\u0306\nе\u0306"]⟩,
  ⟨0x4da, ["Ә\u0308\nә\u0308\nЖ\u0308\nж\u0308\nЗ\u0308\nз\u0308"]⟩,
  ⟨0x4e2, ["И\u0304\nи\u0304\nИ\u0308\nи\u0308\nО\u0308\nо\u0308"]⟩,
  ⟨0x4ea, ["Ө\u0308\nө\u0308\nЭ\u0308\nэ\u0308\nУ\u0304\nу\u0304\nУ\u0308\nу\u0308\nУ\u030b",
    "у\u030b\nЧ\u0308\nч\u0308"]⟩,
  ⟨0x4f8, ["Ы\u0308\nы\u0308"]⟩,
  ⟨0x587, ["եւ"]⟩,
  ⟨0x622, ["\u0627\u0653\n\u0627\u0654\n\u0648\u0654\n\u0627\u0655\n\u064a\u0654"]⟩,
  ⟨0x675, ["\u0627\u0674\n\u0648\u0674\n\u06c7\u0674\n\u064a\u0674"]⟩,
  ⟨0x6c0, ["\u06d5\u0654"]⟩,
  ⟨0x6c2, ["\u06c1\u0654"]⟩,
  ⟨0x6d3, ["\u06d2\u0654"]⟩,
  ⟨0x929, ["न\u093c"]⟩,
  ⟨0x931, ["र\u093c"]⟩,
  ⟨0x934, ["ळ\u093c"]⟩,
  ⟨0x958, ["क\u093c\nख\u093c\nग\u093c\nज\u093c\nड\u093c\nढ\u093c\nफ\u093c\nय\u093c"]⟩,
  ⟨0x9cb, ["\u09c7\u09be\n\u09c7\u09d7"]⟩,
  ⟨0x9dc, ["ড\u09bc\nঢ\u09bc"]⟩,
  ⟨0x9df, ["য\u09bc"]⟩,
  ⟨0xa33, ["ਲ\u0a3c"]⟩,
  ⟨0xa36, ["ਸ\u0a3c"]⟩,
  ⟨0xa59, ["ਖ\u0a3c\nਗ\u0a3c\nਜ\u0a3c"]⟩,
  ⟨0xa5e, ["ਫ\u0a3c"]⟩,
  ⟨0xb48, ["\u0b47\u0b56"]⟩,
  ⟨0xb4b, ["\u0b47\u0b3e\n\u0b47\u0b57"]⟩,
  ⟨0xb5c, ["ଡ\u0b3c\nଢ\u0b3c"]⟩,
  ⟨0xb94, ["ஒ\u0bd7"]⟩,
  ⟨0xbca, ["\u0bc6\u0bbe\n\u0bc7\u0bbe\n\u0bc6\u0bd7"]⟩,
  ⟨0xc48, ["\u0c46\u0c56"]⟩,
  ⟨0xcc0, ["\u0cbf\u0cd5"]⟩,
  ⟨0xcc7, ["\u0cc6\u0cd5\n\u0cc6\u0cd6"]⟩,
  ⟨0xcca, ["\u0cc6\u0cc2\n\u0cc6\u0cc2\u0cd5"]⟩,
  ⟨0xd4a, ["\u0d46\u0d3e\n\u0d47\u0d3e\n\u0d46\u0d57"]⟩,
  ⟨0xdda, ["\u0dd9\u0dca"]⟩,
  ⟨0xddc, ["\u0dd9\u0dcf\n\u0dd9\u0dcf\u0dca\n\u0dd9\u0ddf"]⟩,
  ⟨0xe33, ["\u0e4dา"]⟩,
  ⟨0xeb3, ["\u0ecdາ"]⟩,
  ⟨0xedc, ["ຫນ\nຫມ"]⟩,
  ⟨0xf0c, ["་"]⟩,
  ⟨0xf43, ["ག\u0fb7"]⟩,
  ⟨0xf4d, ["ཌ\u0fb7"]⟩,
  ⟨0xf52, ["ད\u0fb7"]⟩,
  ⟨0xf57, ["བ\u0fb7"]⟩,
  ⟨0xf5c, ["ཛ\u0fb7"]⟩,
  ⟨0xf69, ["ཀ\u0fb5"]⟩,
  ⟨0xf73, ["\u0f71\u0f72"]⟩,
  ⟨0xf75, ["\u0f71\u0f74\n\u0fb2\u0f80\n\u0fb2\u0f71\u0f80\n\u0fb3\u0f80\n\u0fb3\u0f71\u0f80"]⟩,
  ⟨0xf81, ["\u0f71\u0f80"]⟩,
  ⟨0xf93, ["\u0f92\u0fb7"]⟩,
  ⟨0xf9d, ["\u0f9c\u0fb7"]⟩,
  ⟨0xfa2, ["\u0fa1\u0fb7"]⟩,
  ⟨0xfa7, ["\u0fa6\u0fb7"]⟩,
  ⟨0xfac, ["\u0fab\u0fb7"]⟩,
  ⟨0xfb9, ["\u0f90\u0fb5"]⟩,
  ⟨0x1026, ["ဥ\u102e"]⟩,
  ⟨0x1e00, ["A\u0325\na\u0325\nB\u0307\nb\u0307\nB\u0323\nb\u0323\nB\u0331\nb\u0331",
    "C\u0327\u0301\nc\u0327\u0301\nD\u0307\nd\u0307\nD\u0323\nd\u0323\nD\u0331\nd\u0331",
    "D\u0327\nd\u0327\nD\u032d\nd\u032d\nE\u0304\u0300\ne\u0304\u0300\nE\u0304\u0301",
    "e\u0304\u0301\nE\u032d\ne\u032d\nE\u0330\ne\u0330\nE\u0327\u0306\ne\u0327\u0306\nF\u0307",
    "f\u0307\nG\u0304\ng\u0304\nH\u0307\nh\u0307\nH\u0323\nh\u0323\nH\u0308\nh\u0308\nH\u0327",
    "h\u0327\nH\u032e\nh\u032e\nI\u0330\ni\u0330\nI\u0308\u0301\ni\u0308\u0301\nK\u0301",
    "k\u0301\nK\u0323\nk\u0323\nK\u0331\nk\u0331\nL\u0323\nl\u0323\nL\u0323\u0304",
    "l\u0323\u0304\nL\u0331\nl\u0331\nL\u032d\nl\u032d\nM\u0301\nm\u0301\nM\u0307\nm\u0307",
    "M\u0323\nm\u0323\nN\u0307\nn\u0307\nN\u0323\nn\u0323\nN\u0331\nn\u0331\nN\u032d\nn\u032d",
    "O\u0303\u0301\no\u0303\u0301\nO\u0303\u0308\no\u0303\u0308\nO\u0304\u0300\no\u0304\u0300",
    "O\u0304\u0301\no\u0304\u0301\nP\u0301\np\u0301\nP\u0307\np\u0307\nR\u0307\nr\u0307",
    "R\u0323\nr\u0323\nR\u0323\u0304\nr\u0323\u0304\nR\u0331\nr\u0331\nS\u0307\ns\u0307",
    "S\u0323\ns\u0323\nS\u0301\u0307\ns\u0301\u0307\nS\u030c\u0307\ns\u030c\u0307",
    "S\u0323\u0307\ns\u0323\u0307\nT\u0307\nt\u0307\nT\u0323\nt\u0323\nT\u0331\nt\u0331",
    "T\u032d\nt\u032d\nU\u0324\nu\u0324\nU\u0330\nu\u0330\nU\u032d\nu\u032d\nU\u0303\u0301",
    "u\u0303\u0301\nU\u0304\u0308\nu\u0304\u0308\nV\u0303\nv\u0303\nV\u0323\nv\u0323\nW\u0300",
    "w\u0300\nW\u0301\nw\u0301\nW\u0308\nw\u0308\nW\u0307\nw\u0307\nW\u0323\nw\u0323\nX\u0307",
    "x\u0307\nX\u0308\nx\u0308\nY\u0307\ny\u0307\nZ\u0302\nz\u0302\nZ\u0323\nz\u0323\nZ\u0331",
    "z\u0331\nh\u0331\nt\u0308\nw\u030a\ny\u030a\naʾ\ns\u0307"]⟩,
  ⟨0x1ea0, ["A\u0323\na\u0323\nA\u0309\na\u0309\nA\u0302\u0301\na\u0302\u0301\nA\u0302\u0300",
    "a\u0302\u0300\nA\u0302\u0309\na\u0302\u0309\nA\u0302\u0303\na\u0302\u0303\nA\u0323\u0302",
    "a\u0323\u0302\nA\u0306\u0301\na\u0306\u0301\nA\u0306\u0300\na\u0306\u0300\nA\u0306\u0309",
    "a\u0306\u0309\nA\u0306\u0303\na\u0306\u0303\nA\u0323\u0306\na\u0323\u0306\nE\u0323",
    "e\u0323\nE\u0309\ne\u0309\nE\u0303\ne\u0303\nE\u0302\u0301\ne\u0302\u0301\nE\u0302\u0300",
    "e\u0302\u0300\nE\u0302\u0309\ne\u0302\u0309\nE\u0302\u0303\ne\u0302\u0303\nE\u0323\u0302",
    "e\u0323\u0302\nI\u0309\ni\u0309\nI\u0323\ni\u0323\nO\u0323\no\u0323\nO\u0309\no\u0309",
    "O\u0302\u0301\no\u0302\u0301\nO\u0302\u0300\no\u0302\u0300\nO\u0302\u0309\no\u0302\u0309",
    "O\u0302\u0303\no\u0302\u0303\nO\u0323\u0302\no\u0323\u0302\nO\u031b\u0301\no\u031b\u0301",
    "O\u031b\u0300\no\u031b\u0300\nO\u031b\u0309\no\u031b\u0309\nO\u031b\u0303\no\u031b\u0303",
    "O\u031b\u0323\no\u031b\u0323\nU\u0323\nu\u0323\nU\u0309\nu\u0309\nU\u031b\u0301",
    "u\u031b\u0301\nU\u031b\u0300\nu\u031b\u0300\nU\u031b\u0309\nu\u031b\u0309\nU\u031b\u0303",
    "u\u031b\u0303\nU\u031b\u0323\nu\u031b\u0323\nY\u0300\ny\u0300\nY\u0323\ny\u0323\nY\u0309",
    "y\u0309\nY\u0303\ny\u0303"]⟩,
  ⟨0x1f00, ["α\u0313\nα\u0314\nα\u0313\u0300\nα\u0314\u0300\nα\u0313\u0301\nα\u0314\u0301",
    "α\u0313\u0342\nα\u0314\u0342\nΑ\u0313\nΑ\u0314\nΑ\u0313\u0300\nΑ\u0314\u0300",
    "Α\u0313\u0301\nΑ\u0314\u0301\nΑ\u0313\u0342\nΑ\u0314\u0342\nε\u0313\nε\u0314",
    "ε\u0313\u0300\nε\u0314\u0300\nε\u0313\u0301\nε\u0314\u0301"]⟩,
  ⟨0x1f18, ["Ε\u0313\nΕ\u0314\nΕ\u0313\u0300\nΕ\u0314\u0300\nΕ\u0313\u0301\nΕ\u0314\u0301"]⟩,
  ⟨0x1f20, ["η\u0313\nη\u0314\nη\u0313\u0300\nη\u0314\u0300\nη\u0313\u0301\nη\u0314\u0301",
    "η\u0313\u0342\nη\u0314\u0342\nΗ\u0313\nΗ\u0314\nΗ\u0313\u0300\nΗ\u0314\u0300",
    "Η\u0313\u0301\nΗ\u0314\u0301\nΗ\u0313\u0342\nΗ\u0314\u0342\nι\u0313\nι\u0314",
    "ι\u0313\u0300\nι\u0314\u0300\nι\u0313\u0301\nι\u0314\u0301\nι\u0313\u0342\nι\u0314\u0342",
    "Ι\u0313\nΙ\u0314\nΙ\u0313\u0300\nΙ\u0314\u0300\nΙ\u0313\u0301\nΙ\u0314\u0301",
    "Ι\u0313\u0342\nΙ\u0314\u0342\nο\u0313\nο\u0314\nο\u0313\u0300\nο\u0314\u0300",
    "ο\u0313\u0301\nο\u0314\u0301"]⟩,
  ⟨0x1f48, ["Ο\u0313\nΟ\u0314\nΟ\u0313\u0300\nΟ\u0314\u0300\nΟ\u0313\u0301\nΟ\u0314\u0301"]⟩,
  ⟨0x1f50, ["υ\u0313\nυ\u0314\nυ\u0313\u0300\nυ\u0314\u0300\nυ\u0313\u0301\nυ\u0314\u0301",
    "υ\u0313\u0342\nυ\u0314\u0342"]⟩,
  ⟨0x1f59, ["Υ\u0314"]⟩,
  ⟨0x1f5b, ["Υ\u0314\u0300"]⟩,
  ⟨0x1f5d, ["Υ\u0314\u0301"]⟩,
  ⟨0x1f5f, ["Υ\u0314\u0342\nω\u0313\nω\u0314\nω\u0313\u0300\nω\u0314\u0300\nω\u0313\u0301",
    "ω\u0314\u0301\nω\u0313\u0342\nω\u0314\u0342\nΩ\u0313\nΩ\u0314\nΩ\u0313\u0300",
    "Ω\u0314\u0300\nΩ\u0313\u0301\nΩ\u0314\u0301\nΩ\u0313\u0342\nΩ\u0314\u0342\nα\u0300",
    "α\u0301\nε\u0300\nε\u0301\nη\u0300\nη\u0301\nι\u0300\nι\u0301\nο\u0300\nο\u0301\nυ\u0300",
    "υ\u0301\nω\u0300\nω\u0301"]⟩,
  ⟨0x1f80, ["α\u0313\u0345\nα\u0314\u0345\nα\u0313\u0300\u0345\nα\u0314\u0300\u0345",
    "α\u0313\u0301\u0345\nα\u0314\u0301\u0345\nα\u0313\u0342\u0345\nα\u0314\u0342\u0345",
    "Α\u0313\u0345\nΑ\u0314\u0345\nΑ\u0313\u0300\u0345\nΑ\u0314\u0300\u0345",
    "Α\u0313\u0301\u0345\nΑ\u0314\u0301\u0345\nΑ\u0313\u0342\u0345\nΑ\u0314\u0342\u0345",
    "η\u0313\u0345\nη\u0314\u0345\nη\u0313\u0300\u0345\nη\u0314\u0300\u0345",
    "η\u0313\u0301\u0345\nη\u0314\u0301\u0345\nη\u0313\u0342\u0345\nη\u0314\u0342\u0345",
    "Η\u0313\u0345\nΗ\u0314\u0345\nΗ\u0313\u0300\u0345\nΗ\u0314\u0300\u0345",
    "Η\u0313\u0301\u0345\nΗ\u0314\u0301\u0345\nΗ\u0313\u0342\u0345\nΗ\u0314\u0342\u0345",
    "ω\u0313\u0345\nω\u0314\u0345\nω\u0313\u0300\u0345\nω\u0314\u0300\u0345",
    "ω\u0313\u0301\u0345\nω\u0314\u0301\u0345\nω\u0313\u0342\u0345\nω\u0314\u0342\u0345",
    "Ω\u0313\u0345\nΩ\u0314\u0345\nΩ\u0313\u0300\u0345\nΩ\u0314\u0300\u0345",
    "Ω\u0313\u0301\u0345\nΩ\u0314\u0301\u0345\nΩ\u0313\u0342\u0345\nΩ\u0314\u0342\u0345",
    "α\u0306\nα\u0304\nα\u0300\u0345\nα\u0345\nα\u0301\u0345"]⟩,
  ⟨0x1fb6, ["α\u0342\nα\u0342\u0345\nΑ\u0306\nΑ\u0304\nΑ\u0300\nΑ\u0301\nΑ\u0345\n \u0313\nι",
    " \u0313\n \u0342\n \u0308\u0342\nη\u0300\u0345\nη\u0345\nη\u0301\u0345"]⟩,
  ⟨0x1fc6, ["η\u0342\nη\u0342\u0345\nΕ\u0300\nΕ\u0301\nΗ\u0300\nΗ\u0301\nΗ\u0345",
    " \u0313\u0300\n \u0313\u0301\n \u0313\u0342\nι\u0306\nι\u0304\nι\u0308\u0300",
    "ι\u0308\u0301"]⟩,
  ⟨0x1fd6, ["ι\u0342\nι\u0308\u0342\nΙ\u0306\nΙ\u0304\nΙ\u0300\nΙ\u0301"]⟩,
  ⟨0x1fdd, [" \u0314\u0300\n \u0314\u0301\n \u0314\u0342\nυ\u0306\nυ\u0304\nυ\u0308\u0300",
    "υ\u0308\u0301\nρ\u0313\nρ\u0314\nυ\u0342\nυ\u0308\u0342\nΥ\u0306\nΥ\u0304\nΥ\u0300",
    "Υ\u0301\nΡ\u0314\n \u0308\u0300\n \u0308\u0301\n`"]⟩,
  ⟨0x1ff2, ["ω\u0300\u0345\nω\u0345\nω\u0301\u0345"]⟩,
  ⟨0x1ff6, ["ω\u0342\nω\u0342\u0345\nΟ\u0300\nΟ\u0301\nΩ\u0300\nΩ\u0301\nΩ\u0345\n \u0301",
    " \u0314"]⟩,
  ⟨0x2000, [" \n \n \n \n \n \n \n \n \n \n "]⟩,
  ⟨0x2011, ["‐"]⟩,
  ⟨0x2017, [" \u0333"]⟩,
  ⟨0x2024, [".\n..\n..."]⟩,
  ⟨0x202f, [" "]⟩,
  ⟨0x2033, ["′′\n′′′"]⟩,
  ⟨0x2036, ["‵‵\n‵‵‵"]⟩,
  ⟨0x203c, ["!!"]⟩,
  ⟨0x203e, [" \u0305"]⟩,
  ⟨0x2047, ["??\n?!\n!?"]⟩,
  ⟨0x2057, ["′′′′"]⟩,
  ⟨0x205f, [" "]⟩,
  ⟨0x2070, ["0\ni"]⟩,
  ⟨0x2074, ["4\n5\n6\n7\n8\n9\n+\n−\n=\n(\n)\nn\n0\n1\n2\n3\n4\n5\n6\n7\n8\n9\n+\n−\n=\n(\n)"]⟩,
  ⟨0x20a8, ["Rs"]⟩,
  ⟨0x2100, ["a/c\na/s\nC\n°C"]⟩,
  ⟨0x2105, ["c/o\nc/u\nƐ"]⟩,
  ⟨0x2109, ["°F\ng\nH\nH\nH\nh\nħ\nI\nI\nL\nl"]⟩,
  ⟨0x2115, ["N\nNo"]⟩,
  ⟨0x2119, ["P\nQ\nR\nR\nR"]⟩,
  ⟨0x2120, ["SM\nTEL\nTM"]⟩,
  ⟨0x2124, ["Z"]⟩,
  ⟨0x2126, ["Ω"]⟩,
  ⟨0x2128, ["Z"]⟩,
  ⟨0x212a, ["K\nA\u030a\nB\nC"]⟩,
  ⟨0x212f, ["e\nE\nF"]⟩,
  ⟨0x2133, ["M\no\n\u05d0\n\u05d1\n\u05d2\n\u05d3\ni"]⟩,
  ⟨0x213d, ["γ\nΓ\nΠ\n∑"]⟩,
  ⟨0x2145, ["D\nd\ne\ni\nj"]⟩,
  ⟨0x2153, ["1⁄3\n2⁄3\n1⁄5\n2⁄5\n3⁄5\n4⁄5\n1⁄6\n5⁄6\n1⁄8\n3⁄8\n5⁄8\n7⁄8\n1⁄\nI\nII\nIII\nIV\nV",
    "VI\nVII\nVIII\nIX\nX\nXI\nXII\nL\nC\nD\nM\ni\nii\niii\niv\nv\nvi\nvii\nviii\nix\nx\nxi",
    "xii\nl\nc\nd\nm"]⟩,
  ⟨0x219a, ["←\u0338\n→\u0338"]⟩,
  ⟨0x21ae, ["↔\u0338"]⟩,
  ⟨0x21cd, ["⇐\u0338\n⇔\u0338\n⇒\u0338"]⟩,
  ⟨0x2204, ["∃\u0338"]⟩,
  ⟨0x2209, ["∈\u0338"]⟩,
  ⟨0x220c, ["∋\u0338"]⟩,
  ⟨0x2224, ["∣\u0338"]⟩,
  ⟨0x2226, ["∥\u0338"]⟩,
  ⟨0x222c, ["∫∫\n∫∫∫"]⟩,
  ⟨0x222f, ["∮∮\n∮∮∮"]⟩,
  ⟨0x2241, ["∼\u0338"]⟩,
  ⟨0x2244, ["≃\u0338"]⟩,
  ⟨0x2247, ["≅\u0338"]⟩,
  ⟨0x2249, ["≈\u0338"]⟩,
  ⟨0x2260, ["=\u0338"]⟩,
  ⟨0x2262, ["≡\u0338"]⟩,
  ⟨0x226d, ["≍\u0338\n<\u0338\n>\u0338\n≤\u0338\n≥\u0338"]⟩,
  ⟨0x2274, ["≲\u0338\n≳\u0338"]⟩,
  ⟨0x2278, ["≶\u0338\n≷\u0338"]⟩,
  ⟨0x2280, ["≺\u0338\n≻\u0338"]⟩,
  ⟨0x2284, ["⊂\u0338\n⊃\u0338"]⟩,
  ⟨0x2288, ["⊆\u0338\n⊇\u0338"]⟩,
  ⟨0x22ac, ["⊢\u0338\n⊨\u0338\n⊩\u0338\n⊫\u0338"]⟩,
  ⟨0x22e0, ["≼\u0338\n≽\u0338\n⊑\u0338\n⊒\u0338"]⟩,
  ⟨0x22ea, ["⊲\u0338\n⊳\u0338\n⊴\u0338\n⊵\u0338"]⟩,
  ⟨0x2329, ["〈\n〉"]⟩,
  ⟨0x2460, ["1\n2\n3\n4\n5\n6\n7\n8\n9\n10\n11\n12\n13\n14\n15\n16\n17\n18\n19\n20\n(1)\n(2)",
    "(3)\n(4)\n(5)\n(6)\n(7)\n(8)\n(9)\n(10)\n(11)\n(12)\n(13)\n(14)\n(15)\n(16)\n(17)\n(18)",
    "(19)\n(20)\n1.\n2.\n3.\n4.\n5.\n6.\n7.\n8.\n9.\n10.\n11.\n12.\n13.\n14.\n15.\n16.\n17.",
    "18.\n19.\n20.\n(a)\n(b)\n(c)\n(d)\n(e)\n(f)\n(g)\n(h)\n(i)\n(j)\n(k)\n(l)\n(m)\n(n)\n(o)",
    "(p)\n(q)\n(r)\n(s)\n(t)\n(u)\n(v)\n(w)\n(x)\n(y)\n(z)\nA\nB\nC\nD\nE\nF\nG\nH\nI\nJ\nK",
    "L\nM\nN\nO\nP\nQ\nR\nS\nT\nU\nV\nW\nX\nY\nZ\na\nb\nc\nd\ne\nf\ng\nh\ni\nj\nk\nl\nm\nn\no",
    "p\nq\nr\ns\nt\nu\nv\nw\nx\ny\nz\n0"]⟩,
  ⟨0x2a0c, ["∫∫∫∫"]⟩,
  ⟨0x2a74, ["::=\n==\n==="]⟩,
  ⟨0x2adc, ["⫝\u0338"]⟩,
  ⟨0x2e9f, ["母"]⟩,
  ⟨0x2ef3, ["龟"]⟩,
  ⟨0x2f00, ["一\n丨\n丶\n丿\n乙\n亅\n二\n亠\n人\n儿\n入\n八\n冂\n冖\n冫\n几\n凵\n刀\n力\n勹\n匕\n匚\n匸\n十\n卜\n卩\n厂",
    "厶\n又\n口\n囗\n土\n士\n夂\n夊\n夕\n大\n女\n子\n宀\n寸\n小\n尢\n尸\n屮\n山\n巛\n工\n己\n巾\n干\n幺\n广\n廴\n廾\n弋\n弓",
    "彐\n彡\n彳\n心\n戈\n戶\n手\n支\n攴\n文\n斗\n斤\n方\n无\n日\n曰\n月\n木\n欠\n止\n歹\n殳\n毋\n比\n毛\n氏\n气\n水\n火\n爪",
    "父\n爻\n爿\n片\n牙\n牛\n犬\n玄\n玉\n瓜\n瓦\n甘\n生\n用\n田\n疋\n疒\n癶\n白\n皮\n皿\n目\n矛\n矢\n石\n示\n禸\n禾\n穴\n立",
    "竹\n米\n糸\n缶\n网\n羊\n羽\n老\n而\n耒\n耳\n聿\n肉\n臣\n自\n至\n臼\n舌\n舛\n舟\n艮\n色\n艸\n虍\n虫\n血\n行\n衣\n襾\n見",
    "角\n言\n谷\n豆\n豕\n豸\n貝\n赤\n走\n足\n身\n車\n辛\n辰\n辵\n邑\n酉\n釆\n里\n金\n長\n門\n阜\n隶\n隹\n雨\n靑\n非\n面\n革",
    "韋\n韭\n音\n頁\n風\n飛\n食\n首\n香\n馬\n骨\n高\n髟\n鬥\n鬯\n鬲\n鬼\n魚\n鳥\n鹵\n鹿\n麥\n麻\n黃\n黍\n黑\n黹\n黽\n鼎\n鼓",
    "鼠\n鼻\n齊\n齒\n龍\n龜\n龠"]⟩,
  ⟨0x3000, [" "]⟩,
  ⟨0x3036, ["〒"]⟩,
  ⟨0x3038, ["十\n卄\n卅"]⟩,
  ⟨0x304c, ["か\u3099"]⟩,
  ⟨0x304e, ["き\u3099"]⟩,
  ⟨0x3050, ["く\u3099"]⟩,
  ⟨0x3052, ["け\u3099"]⟩,
  ⟨0x3054, ["こ\u3099"]⟩,
  ⟨0x3056, ["さ\u3099"]⟩,
  ⟨0x3058, ["し\u3099"]⟩,
  ⟨0x305a, ["す\u3099"]⟩,
  ⟨0x305c, ["せ\u3099"]⟩,
  ⟨0x305e, ["そ\u3099"]⟩,
  ⟨0x3060, ["た\u3099"]⟩,
  ⟨0x3062, ["ち\u3099"]⟩,
  ⟨0x3065, ["つ\u3099"]⟩,
  ⟨0x3067, ["て\u3099"]⟩,
  ⟨0x3069, ["と\u3099"]⟩,
  ⟨0x3070, ["は\u3099\nは\u309a"]⟩,
  ⟨0x3073, ["ひ\u3099\nひ\u309a"]⟩,
  ⟨0x3076, ["ふ\u3099\nふ\u309a"]⟩,
  ⟨0x3079, ["へ\u3099\nへ\u309a"]⟩,
  ⟨0x307c, ["ほ\u3099\nほ\u309a"]⟩,
  ⟨0x3094, ["う\u3099"]⟩,
  ⟨0x309b, [" \u3099\n \u309a"]⟩,
  ⟨0x309e, ["ゝ\u3099\nより"]⟩,
  ⟨0x30ac, ["カ\u3099"]⟩,
  ⟨0x30ae, ["キ\u3099"]⟩,
  ⟨0x30b0, ["ク\u3099"]⟩,
  ⟨0x30b2, ["ケ\u3099"]⟩,
  ⟨0x30b4, ["コ\u3099"]⟩,
  ⟨0x30b6, ["サ\u3099"]⟩,
  ⟨0x30b8, ["シ\u3099"]⟩,
  ⟨0x30ba, ["ス\u3099"]⟩,
  ⟨0x30bc, ["セ\u3099"]⟩,
  ⟨0x30be, ["ソ\u3099"]⟩,
  ⟨0x30c0, ["タ\u3099"]⟩,
  ⟨0x30c2, ["チ\u3099"]⟩,
  ⟨0x30c5, ["ツ\u3099"]⟩,
  ⟨0x30c7, ["テ\u3099"]⟩,
  ⟨0x30c9, ["ト\u3099"]⟩,
  ⟨0x30d0, ["ハ\u3099\nハ\u309a"]⟩,
  ⟨0x30d3, ["ヒ\u3099\nヒ\u309a"]⟩,
  ⟨0x30d6, ["フ\u3099\nフ\u309a"]⟩,
  ⟨0x30d9, ["ヘ\u3099\nヘ\u309a"]⟩,
  ⟨0x30dc, ["ホ\u3099\nホ\u309a"]⟩,
  ⟨0x30f4, ["ウ\u3099"]⟩,
  ⟨0x30f7, ["ワ\u3099\nヰ\u3099\nヱ\u3099\nヲ\u3099"]⟩,
  ⟨0x30fe, ["ヽ\u3099\nコト"]⟩,
  ⟨0x3131, ["\u1100\n\u1101\n\u11aa\n\u1102\n\u11ac\n\u11ad\n\u1103\n\u1104\n\u1105\n\u11b0",
    "\u11b1\n\u11b2\n\u11b3\n\u11b4\n\u11b5\n\u111a\n\u1106\n\u1107\n\u1108\n\u1121\n\u1109",
    "\u110a\n\u110b\n\u110c\n\u110d\n\u110e\n\u110f\n\u1110\n\u1111\n\u1112\n\u1161\n\u1162",
    "\u1163\n\u1164\n\u1165\n\u1166\n\u1167\n\u1168\n\u1169\n\u116a\n\u116b\n\u116c\n\u116d",
    "\u116e\n\u116f\n\u1170\n\u1171\n\u1172\n\u1173\n\u1174\n\u1175\n\u1160\n\u1114\n\u1115",
    "\u11c7\n\u11c8\n\u11cc\n\u11ce\n\u11d3\n\u11d7\n\u11d9\n\u111c\n\u11dd\n\u11df\n\u111d",
    "\u111e\n\u1120\n\u1122\n\u1123\n\u1127\n\u1129\n\u112b\n\u112c\n\u112d\n\u112e\n\u112f",
    "\u1132\n\u1136\n\u1140\n\u1147\n\u114c\n\u11f1\n\u11f2\n\u1157\n\u1158\n\u1159\n\u1184",
    "\u1185\n\u1188\n\u1191\n\u1192\n\u1194\n\u119e\n\u11a1"]⟩,
  ⟨0x3192, ["一\n二\n三\n四\n上\n中\n下\n甲\n乙\n丙\n丁\n天\n地\n人"]⟩,
  ⟨0x3200, ["(\u1100)\n(\u1102)\n(\u1103)\n(\u1105)\n(\u1106)\n(\u1107)\n(\u1109)\n(\u110b)",
    "(\u110c)\n(\u110e)\n(\u110f)\n(\u1110)\n(\u1111)\n(\u1112)\n(\u1100\u1161)",
    "(\u1102\u1161)\n(\u1103\u1161)\n(\u1105\u1161)\n(\u1106\u1161)\n(\u1107\u1161)",
    "(\u1109\u1161)\n(\u110b\u1161)\n(\u110c\u1161)\n(\u110e\u1161)\n(\u110f\u1161)",
    "(\u1110\u1161)\n(\u1111\u1161)\n(\u1112\u1161)\n(\u110c\u116e)"]⟩,
  ⟨0x3220, ["(一)\n(二)\n(三)\n(四)\n(五)\n(六)\n(七)\n(八)\n(九)\n(十)\n(月)\n(火)\n(水)\n(木)\n(金)\n(土)",
    "(日)\n(株)\n(有)\n(社)\n(名)\n(特)\n(財)\n(祝)\n(労)\n(代)\n(呼)\n(学)\n(監)\n(企)\n(資)\n(協)\n(祭)\n(休)",
    "(自)\n(至)"]⟩,
  ⟨0x3251, ["21\n22\n23\n24\n25\n26\n27\n28\n29\n30\n31\n32\n33\n34\n35\n\u1100\n\u1102",
    "\u1103\n\u1105\n\u1106\n\u1107\n\u1109\n\u110b\n\u110c\n\u110e\n\u110f\n\u1110\n\u1111",
    "\u1112\n\u1100\u1161\n\u1102\u1161\n\u1103\u1161\n\u1105\u1161\n\u1106\u1161",
    "\u1107\u1161\n\u1109\u1161\n\u110b\u1161\n\u110c\u1161\n\u110e\u1161\n\u110f\u1161",
    "\u1110\u1161\n\u1111\u1161\n\u1112\u1161"]⟩,
  ⟨0x3280, ["一\n二\n三\n四\n五\n六\n七\n八\n九\n十\n月\n火\n水\n木\n金\n土\n日\n株\n有\n社\n名\n特\n財\n祝\n労\n秘\n男",
    "女\n適\n優\n印\n注\n項\n休\n写\n正\n上\n中\n下\n左\n右\n医\n宗\n学\n監\n企\n資\n協\n夜\n36\n37\n38\n39\n40\n41",
    "42\n43\n44\n45\n46\n47\n48\n49\n50\n1月\n2月\n3月\n4月\n5月\n6月\n7月\n8月\n9月\n10月\n11月\n12月"]⟩,
  ⟨0x32d0, ["ア\nイ\nウ\nエ\nオ\nカ\nキ\nク\nケ\nコ\nサ\nシ\nス\nセ\nソ\nタ\nチ\nツ\nテ\nト\nナ\nニ\nヌ\nネ\nノ\nハ\nヒ",
    "フ\nヘ\nホ\nマ\nミ\nム\nメ\nモ\nヤ\nユ\nヨ\nラ\nリ\nル\nレ\nロ\nワ\nヰ\nヱ\nヲ"]⟩,
  ⟨0x3300, ["アハ\u309aート\nアルファ\nアンヘ\u309aア\nアール\nイニンク\u3099\nインチ\nウォン\nエスクート\u3099\nエーカー\nオンス",
    "オーム\nカイリ\nカラット\nカロリー\nカ\u3099ロン\nカ\u3099ンマ\nキ\u3099カ\u3099\nキ\u3099ニー\nキュリー",
    "キ\u3099ルタ\u3099ー\nキロ\nキロク\u3099ラム\nキロメートル\nキロワット\nク\u3099ラム\nク\u3099ラムトン\nクルセ\u3099イロ",
    "クローネ\nケース\nコルナ\nコーホ\u309a\nサイクル\nサンチーム\nシリンク\u3099\nセンチ\nセント\nタ\u3099ース\nテ\u3099シ",
    "ト\u3099ル\nトン\nナノ\nノット\nハイツ\nハ\u309aーセント\nハ\u309aーツ\nハ\u3099ーレル\nヒ\u309aアストル\nヒ\u309aクル",
    "ヒ\u309aコ\nヒ\u3099ル\nファラット\u3099\nフィート\nフ\u3099ッシェル\nフラン\nヘクタール\nヘ\u309aソ\nヘ\u309aニヒ\nヘルツ",
    "ヘ\u309aンス\nヘ\u309aーシ\u3099\nヘ\u3099ータ\nホ\u309aイント\nホ\u3099ルト\nホン\nホ\u309aント\u3099\nホール",
    "ホーン\nマイクロ\nマイル\nマッハ\nマルク\nマンション\nミクロン\nミリ\nミリハ\u3099ール\nメカ\u3099\nメカ\u3099トン\nメートル",
    "ヤート\u3099\nヤール\nユアン\nリットル\nリラ\nルヒ\u309aー\nルーフ\u3099ル\nレム\nレントケ\u3099ン\nワット\n0点\n1点\n2点",
    "3点\n4点\n5点\n6点\n7点\n8点\n9点\n10点\n11点\n12点\n13点\n14点\n15点\n16点\n17点\n18点\n19点\n20点\n21点",
    "22点\n23点\n24点\nhPa\nda\nAU\nbar\noV\npc"]⟩,
  ⟨0x337b, ["平成\n昭和\n大正\n明治\n株式会社\npA\nnA\nμA\nmA\nkA\nKB\nMB\nGB\ncal\nkcal\npF\nnF\nμF\nμg",
    "mg\nkg\nHz\nkHz\nMHz\nGHz\nTHz\nμl\nml\ndl\nkl\nfm\nnm\nμm\nmm\ncm\nkm\nmm2\ncm2\nm2",
    "km2\nmm3\ncm3\nm3\nkm3\nm∕s\nm∕s2\nPa\nkPa\nMPa\nGPa\nrad\nrad∕s\nrad∕s2\nps\nns\nμs\nms",
    "pV\nnV\nμV\nmV\nkV\nMV\npW\nnW\nμW\nmW\nkW\nMW\nkΩ\nMΩ\na.m.\nBq\ncc\ncd\nC∕kg\nCo.\ndB",
    "Gy\nha\nHP\nin\nKK\nKM\nkt\nlm\nln\nlog\nlx\nmb\nmil\nmol\nPH\np.m.\nPPM\nPR\nsr\nSv\nWb"]⟩,
  ⟨0x33e0, ["1日\n2日\n3日\n4日\n5日\n6日\n7日\n8日\n9日\n10日\n11日\n12日\n13日\n14日\n15日\n16日\n17日\n18日",
    "19日\n20日\n21日\n22日\n23日\n24日\n25日\n26日\n27日\n28日\n29日\n30日\n31日"]⟩,
  ⟨0xf900, ["豈\n更\n車\n賈\n滑\n串\n句\n龜\n龜\n契\n金\n喇\n奈\n懶\n癩\n羅\n蘿\n螺\n裸\n邏\n樂\n洛\n烙\n珞\n落\n酪\n駱",
    "亂\n卵\n欄\n爛\n蘭\n鸞\n嵐\n濫\n藍\n襤\n拉\n臘\n蠟\n廊\n朗\n浪\n狼\n郎\n來\n冷\n勞\n擄\n櫓\n爐\n盧\n老\n蘆\n虜\n路\n露",
    "魯\n鷺\n碌\n祿\n綠\n菉\n錄\n鹿\n論\n壟\n弄\n籠\n聾\n牢\n磊\n賂\n雷\n壘\n屢\n樓\n淚\n漏\n累\n縷\n陋\n勒\n肋\n凜\n凌\n稜",
    "綾\n菱\n陵\n讀\n拏\n樂\n諾\n丹\n寧\n怒\n率\n異\n北\n磻\n便\n復\n不\n泌\n數\n索\n參\n塞\n省\n葉\n說\n殺\n辰\n沈\n拾\n若",
    "掠\n略\n亮\n兩\n凉\n梁\n糧\n良\n諒\n量\n勵\n呂\n女\n廬\n旅\n濾\n礪\n閭\n驪\n麗\n黎\n力\n曆\n歷\n轢\n年\n憐\n戀\n撚\n漣",
    "煉\n璉\n秊\n練\n聯\n輦\n蓮\n連\n鍊\n列\n劣\n咽\n烈\n裂\n說\n廉\n念\n捻\n殮\n簾\n獵\n令\n囹\n寧\n嶺\n怜\n玲\n瑩\n羚\n聆",
    "鈴\n零\n靈\n領\n例\n禮\n醴\n隸\n惡\n了\n僚\n寮\n尿\n料\n樂\n燎\n療\n蓼\n遼\n龍\n暈\n阮\n劉\n杻\n柳\n流\n溜\n琉\n留\n硫",
    "紐\n類\n六\n戮\n陸\n倫\n崙\n淪\n輪\n律\n慄\n栗\n率\n隆\n利\n吏\n履\n易\n李\n梨\n泥\n理\n痢\n罹\n裏\n裡\n里\n離\n匿\n溺",
    "吝\n燐\n璘\n藺\n隣\n鱗\n麟\n林\n淋\n臨\n立\n笠\n粒\n狀\n炙\n識\n什\n茶\n刺\n切\n度\n拓\n糖\n宅\n洞\n暴\n輻\n行\n降\n見",
    "廓\n兀\n嗀"]⟩,
  ⟨0xfa10, ["塚"]⟩,
  ⟨0xfa12, ["晴"]⟩,
  ⟨0xfa15, ["凞\n猪\n益\n礼\n神\n祥\n福\n靖\n精\n羽"]⟩,
  ⟨0xfa20, ["蘒"]⟩,
  ⟨0xfa22, ["諸"]⟩,
  ⟨0xfa25, ["逸\n都"]⟩,
  ⟨0xfa2a, ["飯\n飼\n館\n鶴"]⟩,
  ⟨0xfa30, ["侮\n僧\n免\n勉\n勤\n卑\n喝\n嘆\n器\n塀\n墨\n層\n屮\n悔\n慨\n憎\n懲\n敏\n既\n暑\n梅\n海\n渚\n漢\n煮\n爫\n琢",
    "碑\n社\n祉\n祈\n祐\n祖\n祝\n禍\n禎\n穀\n突\n節\n練\n縉\n繁\n署\n者\n臭\n艹\n艹\n著\n褐\n視\n謁\n謹\n賓\n贈\n辶\n逸\n難",
    "響\n頻"]⟩,
  ⟨0xfb00, ["ff\nfi\nfl\nffi\nffl\nst\nst"]⟩,
  ⟨0xfb13, ["մն\nմե\nմի\nվն\nմխ"]⟩,
  ⟨0xfb1d, ["\u05d9\u05b4"]⟩,
  ⟨0xfb1f, ["\u05f2\u05b7\n\u05e2\n\u05d0\n\u05d3\n\u05d4\n\u05db\n\u05dc\n\u05dd\n\u05e8",
    "\u05ea\n+\n\u05e9\u05c1\n\u05e9\u05c2\n\u05e9\u05bc\u05c1\n\u05e9\u05bc\u05c2",
    "\u05d0\u05b7\n\u05d0\u05b8\n\u05d0\u05bc\n\u05d1\u05bc\n\u05d2\u05bc\n\u05d3\u05bc",
    "\u05d4\u05bc\n\u05d5\u05bc\n\u05d6\u05bc"]⟩,
  ⟨0xfb38, ["\u05d8\u05bc\n\u05d9\u05bc\n\u05da\u05bc\n\u05db\u05bc\n\u05dc\u05bc"]⟩,
  ⟨0xfb3e, ["\u05de\u05bc"]⟩,
  ⟨0xfb40, ["\u05e0\u05bc\n\u05e1\u05bc"]⟩,
  ⟨0xfb43, ["\u05e3\u05bc\n\u05e4\u05bc"]⟩,
  ⟨0xfb46, ["\u05e6\u05bc\n\u05e7\u05bc\n\u05e8\u05bc\n\u05e9\u05bc\n\u05ea\u05bc",
    "\u05d5\u05b9\n\u05d1\u05bf\n\u05db\u05bf\n\u05e4\u05bf\n\u05d0\u05dc\n\u0671\n\u0671",
    "\u067b\n\u067b\n\u067b\n\u067b\n\u067e\n\u067e\n\u067e\n\u067e\n\u0680\n\u0680\n\u0680",
    "\u0680\n\u067a\n\u067a\n\u067a\n\u067a\n\u067f\n\u067f\n\u067f\n\u067f\n\u0679\n\u0679",
    "\u0679\n\u0679\n\u06a4\n\u06a4\n\u06a4\n\u06a4\n\u06a6\n\u06a6\n\u06a6\n\u06a6\n\u0684",
    "\u0684\n\u0684\n\u0684\n\u0683\n\u0683\n\u0683\n\u0683\n\u0686\n\u0686\n\u0686\n\u0686",
    "\u0687\n\u0687\n\u0687\n\u0687\n\u068d\n\u068d\n\u068c\n\u068c\n\u068e\n\u068e\n\u0688",
    "\u0688\n\u0698\n\u0698\n\u0691\n\u0691\n\u06a9\n\u06a9\n\u06a9\n\u06a9\n\u06af\n\u06af",
    "\u06af\n\u06af\n\u06b3\n\u06b3\n\u06b3\n\u06b3\n\u06b1\n\u06b1\n\u06b1\n\u06b1\n\u06ba",
    "\u06ba\n\u06bb\n\u06bb\n\u06bb\n\u06bb\n\u06d5\u0654\n\u06d5\u0654\n\u06c1\n\u06c1",
    "\u06c1\n\u06c1\n\u06be\n\u06be\n\u06be\n\u06be\n\u06d2\n\u06d2\n\u06d2\u0654",
    "\u06d2\u0654"]⟩,
  ⟨0xfbd3, ["\u06ad\n\u06ad\n\u06ad\n\u06ad\n\u06c7\n\u06c7\n\u06c6\n\u06c6\n\u06c8\n\u06c8",
    "\u06c7\u0674\n\u06cb\n\u06cb\n\u06c5\n\u06c5\n\u06c9\n\u06c9\n\u06d0\n\u06d0\n\u06d0",
    "\u06d0\n\u0649\n\u0649\n\u064a\u0654\u0627\n\u064a\u0654\u0627\n\u064a\u0654\u06d5",
    "\u064a\u0654\u06d5\n\u064a\u0654\u0648\n\u064a\u0654\u0648\n\u064a\u0654\u06c7",
    "\u064a\u0654\u06c7\n\u064a\u0654\u06c6\n\u064a\u0654\u06c6\n\u064a\u0654\u06c8",
    "\u064a\u0654\u06c8\n\u064a\u0654\u06d0\n\u064a\u0654\u06d0\n\u064a\u0654\u06d0",
    "\u064a\u0654\u0649\n\u064a\u0654\u0649\n\u064a\u0654\u0649\n\u06cc\n\u06cc\n\u06cc",
    "\u06cc\n\u064a\u0654\u062c\n\u064a\u0654\u062d\n\u064a\u0654\u0645\n\u064a\u0654\u0649",
    "\u064a\u0654\u064a\n\u0628\u062c\n\u0628\u062d\n\u0628\u062e\n\u0628\u0645\n\u0628\u0649",
    "\u0628\u064a\n\u062a\u062c\n\u062a\u062d\n\u062a\u062e\n\u062a\u0645\n\u062a\u0649",
    "\u062a\u064a\n\u062b\u062c\n\u062b\u0645\n\u062b\u0649\n\u062b\u064a\n\u062c\u062d",
    "\u062c\u0645\n\u062d\u062c\n\u062d\u0645\n\u062e\u062c\n\u062e\u062d\n\u062e\u0645",
    "\u0633\u062c\n\u0633\u062d\n\u0633\u062e\n\u0633\u0645\n\u0635\u062d\n\u0635\u0645",
    "\u0636\u062c\n\u0636\u062d\n\u0636\u062e\n\u0636\u0645\n\u0637\u062d\n\u0637\u0645",
    "\u0638\u0645\n\u0639\u062c\n\u0639\u0645\n\u063a\u062c\n\u063a\u0645\n\u0641\u062c",
    "\u0641\u062d\n\u0641\u062e\n\u0641\u0645\n\u0641\u0649\n\u0641\u064a\n\u0642\u062d",
    "\u0642\u0645\n\u0642\u0649\n\u0642\u064a\n\u0643\u0627\n\u0643\u062c\n\u0643\u062d",
    "\u0643\u062e\n\u0643\u0644\n\u0643\u0645\n\u0643\u0649\n\u0643\u064a\n\u0644\u062c",
    "\u0644\u062d\n\u0644\u062e\n\u0644\u0645\n\u0644\u0649\n\u0644\u064a\n\u0645\u062c",
    "\u0645\u062d\n\u0645\u062e\n\u0645\u0645\n\u0645\u0649\n\u0645\u064a\n\u0646\u062c",
    "\u0646\u062d\n\u0646\u062e\n\u0646\u0645\n\u0646\u0649\n\u0646\u064a\n\u0647\u062c",
    "\u0647\u0645\n\u0647\u0649\n\u0647\u064a\n\u064a\u062c\n\u064a\u062d\n\u064a\u062e",
    "\u064a\u0645\n\u064a\u0649\n\u064a\u064a\n\u0630\u0670\n\u0631\u0670\n\u0649\u0670",
    " \u064c\u0651\n \u064d\u0651\n \u064e\u0651\n \u064f\u0651\n \u0650\u0651\n \u0651\u0670",
    "\u064a\u0654\u0631\n\u064a\u0654\u0632\n\u064a\u0654\u0645\n\u064a\u0654\u0646",
    "\u064a\u0654\u0649\n\u064a\u0654\u064a\n\u0628\u0631\n\u0628\u0632\n\u0628\u0645",
    "\u0628\u0646\n\u0628\u0649\n\u0628\u064a\n\u062a\u0631\n\u062a\u0632\n\u062a\u0645",
    "\u062a\u0646\n\u062a\u0649\n\u062a\u064a\n\u062b\u0631\n\u062b\u0632\n\u062b\u0645",
    "\u062b\u0646\n\u062b\u0649\n\u062b\u064a\n\u0641\u0649\n\u0641\u064a\n\u0642\u0649",
    "\u0642\u064a\n\u0643\u0627\n\u0643\u0644\n\u0643\u0645\n\u0643\u0649\n\u0643\u064a",
    "\u0644\u0645\n\u0644\u0649\n\u0644\u064a\n\u0645\u0627\n\u0645\u0645\n\u0646\u0631",
    "\u0646\u0632\n\u0646\u0645\n\u0646\u0646\n\u0646\u0649\n\u0646\u064a\n\u0649\u0670",
    "\u064a\u0631\n\u064a\u0632\n\u064a\u0645\n\u064a\u0646\n\u064a\u0649\n\u064a\u064a",
    "\u064a\u0654\u062c\n\u064a\u0654\u062d\n\u064a\u0654\u062e\n\u064a\u0654\u0645",
    "\u064a\u0654\u0647\n\u0628\u062c\n\u0628\u062d\n\u0628\u062e\n\u0628\u0645\n\u0628\u0647",
    "\u062a\u062c\n\u062a\u062d\n\u062a\u062e\n\u062a\u0645\n\u062a\u0647\n\u062b\u0645",
    "\u062c\u062d\n\u062c\u0645\n\u062d\u062c\n\u062d\u0645\n\u062e\u062c\n\u062e\u0645",
    "\u0633\u062c\n\u0633\u062d\n\u0633\u062e\n\u0633\u0645\n\u0635\u062d\n\u0635\u062e",
    "\u0635\u0645\n\u0636\u062c\n\u0636\u062d\n\u0636\u062e\n\u0636\u0645\n\u0637\u062d",
    "\u0638\u0645\n\u0639\u062c\n\u0639\u0645\n\u063a\u062c\n\u063a\u0645\n\u0641\u062c",
    "\u0641\u062d\n\u0641\u062e\n\u0641\u0645\n\u0642\u062d\n\u0642\u0645\n\u0643\u062c",
    "\u0643\u062d\n\u0643\u062e\n\u0643\u0644\n\u0643\u0645\n\u0644\u062c\n\u0644\u062d",
    "\u0644\u062e\n\u0644\u0645\n\u0644\u0647\n\u0645\u062c\n\u0645\u062d\n\u0645\u062e",
    "\u0645\u0645\n\u0646\u062c\n\u0646\u062d\n\u0646\u062e\n\u0646\u0645\n\u0646\u0647",
    "\u0647\u062c\n\u0647\u0645\n\u0647\u0670\n\u064a\u062c\n\u064a\u062d\n\u064a\u062e",
    "\u064a\u0645\n\u064a\u0647\n\u064a\u0654\u0645\n\u064a\u0654\u0647\n\u0628\u0645",
    "\u0628\u0647\n\u062a\u0645\n\u062a\u0647\n\u062b\u0645\n\u062b\u0647\n\u0633\u0645",
    "\u0633\u0647\n\u0634\u0645\n\u0634\u0647\n\u0643\u0644\n\u0643\u0645\n\u0644\u0645",
    "\u0646\u0645\n\u0646\u0647\n\u064a\u0645\n\u064a\u0647\n\u0640\u064e\u0651",
    "\u0640\u064f\u0651\n\u0640\u0650\u0651\n\u0637\u0649\n\u0637\u064a\n\u0639\u0649",
    "\u0639\u064a\n\u063a\u0649\n\u063a\u064a\n\u0633\u0649\n\u0633\u064a\n\u0634\u0649",
    "\u0634\u064a\n\u062d\u0649\n\u062d\u064a\n\u062c\u0649\n\u062c\u064a\n\u062e\u0649",
    "\u062e\u064a\n\u0635\u0649\n\u0635\u064a\n\u0636\u0649\n\u0636\u064a\n\u0634\u062c",
    "\u0634\u062d\n\u0634\u062e\n\u0634\u0645\n\u0634\u0631\n\u0633\u0631\n\u0635\u0631",
    "\u0636\u0631\n\u0637\u0649\n\u0637\u064a\n\u0639\u0649\n\u0639\u064a\n\u063a\u0649",
    "\u063a\u064a\n\u0633\u0649\n\u0633\u064a\n\u0634\u0649\n\u0634\u064a\n\u062d\u0649",
    "\u062d\u064a\n\u062c\u0649\n\u062c\u064a\n\u062e\u0649\n\u062e\u064a\n\u0635\u0649",
    "\u0635\u064a\n\u0636\u0649\n\u0636\u064a\n\u0634\u062c\n\u0634\u062d\n\u0634\u062e",
    "\u0634\u0645\n\u0634\u0631\n\u0633\u0631\n\u0635\u0631\n\u0636\u0631\n\u0634\u062c",
    "\u0634\u062d\n\u0634\u062e\n\u0634\u0645\n\u0633\u0647\n\u0634\u0647\n\u0637\u0645",
    "\u0633\u062c\n\u0633\u062d\n\u0633\u062e\n\u0634\u062c\n\u0634\u062d\n\u0634\u062e",
    "\u0637\u0645\n\u0638\u0645\n\u0627\u064b\n\u0627\u064b"]⟩,
  ⟨0xfd50, ["\u062a\u062c\u0645\n\u062a\u062d\u062c\n\u062a\u062d\u062c\n\u062a\u062d\u0645",
    "\u062a\u062e\u0645\n\u062a\u0645\u062c\n\u062a\u0645\u062d\n\u062a\u0645\u062e",
    "\u062c\u0645\u062d\n\u062c\u0645\u062d\n\u062d\u0645\u064a\n\u062d\u0645\u0649",
    "\u0633\u062d\u062c\n\u0633\u062c\u062d\n\u0633\u062c\u0649\n\u0633\u0645\u062d",
    "\u0633\u0645\u062d\n\u0633\u0645\u062c\n\u0633\u0645\u0645\n\u0633\u0645\u0645",
    "\u0635\u062d\u062d\n\u0635\u062d\u062d\n\u0635\u0645\u0645\n\u0634\u062d\u0645",
    "\u0634\u062d\u0645\n\u0634\u062c\u064a\n\u0634\u0645\u062e\n\u0634\u0645\u062e",
    "\u0634\u0645\u0645\n\u0634\u0645\u0645\n\u0636\u062d\u0649\n\u0636\u062e\u0645",
    "\u0636\u062e\u0645\n\u0637\u0645\u062d\n\u0637\u0645\u062d\n\u0637\u0645\u0645",
    "\u0637\u0645\u064a\n\u0639\u062c\u0645\n\u0639\u0645\u0645\n\u0639\u0645\u0645",
    "\u0639\u0645\u0649\n\u063a\u0645\u0645\n\u063a\u0645\u064a\n\u063a\u0645\u0649",
    "\u0641\u062e\u0645\n\u0641\u062e\u0645\n\u0642\u0645\u062d\n\u0642\u0645\u0645",
    "\u0644\u062d\u0645\n\u0644\u062d\u064a\n\u0644\u062d\u0649\n\u0644\u062c\u062c",
    "\u0644\u062c\u062c\n\u0644\u062e\u0645\n\u0644\u062e\u0645\n\u0644\u0645\u062d",
    "\u0644\u0645\u062d\n\u0645\u062d\u062c\n\u0645\u062d\u0645\n\u0645\u062d\u064a",
    "\u0645\u062c\u062d\n\u0645\u062c\u0645\n\u0645\u062e\u062c\n\u0645\u062e\u0645"]⟩,
  ⟨0xfd92, ["\u0645\u062c\u062e\n\u0647\u0645\u062c\n\u0647\u0645\u0645\n\u0646\u062d\u0645",
    "\u0646\u062d\u0649\n\u0646\u062c\u0645\n\u0646\u062c\u0645\n\u0646\u062c\u0649",
    "\u0646\u0645\u064a\n\u0646\u0645\u0649\n\u064a\u0645\u0645\n\u064a\u0645\u0645",
    "\u0628\u062e\u064a\n\u062a\u062c\u064a\n\u062a\u062c\u0649\n\u062a\u062e\u064a",
    "\u062a\u062e\u0649\n\u062a\u0645\u064a\n\u062a\u0645\u0649\n\u062c\u0645\u064a",
    "\u062c\u062d\u0649\n\u062c\u0645\u0649\n\u0633\u062e\u0649\n\u0635\u062d\u064a",
    "\u0634\u062d\u064a\n\u0636\u062d\u064a\n\u0644\u062c\u064a\n\u0644\u0645\u064a",
    "\u064a\u062d\u064a\n\u064a\u062c\u064a\n\u064a\u0645\u064a\n\u0645\u0645\u064a",
    "\u0642\u0645\u064a\n\u0646\u062d\u064a\n\u0642\u0645\u062d\n\u0644\u062d\u0645",
    "\u0639\u0645\u064a\n\u0643\u0645\u064a\n\u0646\u062c\u062d\n\u0645\u062e\u064a",
    "\u0644\u062c\u0645\n\u0643\u0645\u0645\n\u0644\u062c\u0645\n\u0646\u062c\u062d",
    "\u062c\u062d\u064a\n\u062d\u062c\u064a\n\u0645\u062c\u064a\n\u0641\u0645\u064a",
    "\u0628\u062d\u064a\n\u0643\u0645\u0645\n\u0639\u062c\u0645\n\u0635\u0645\u0645",
    "\u0633\u062e\u064a\n\u0646\u062c\u064a"]⟩,
  ⟨0xfdf0, ["\u0635\u0644\u06d2\n\u0642\u0644\u06d2\n\u0627\u0644\u0644\u0647",
    "\u0627\u0643\u0628\u0631\n\u0645\u062d\u0645\u062f\n\u0635\u0644\u0639\u0645",
    "\u0631\u0633\u0648\u0644\n\u0639\u0644\u064a\u0647\n\u0648\u0633\u0644\u0645",
    "\u0635\u0644\u0649",
    "\u0635\u0644\u0649 \u0627\u0644\u0644\u0647 \u0639\u0644\u064a\u0647 \u0648\u0633\u0644\u0645",
    "\u062c\u0644 \u062c\u0644\u0627\u0644\u0647\n\u0631\u06cc\u0627\u0644"]⟩,
  ⟨0xfe30, ["..\n—\n–\n_\n_\n(\n)\n\x7b\n\x7d\n〔\n〕\n【\n】\n《\n》\n〈\n〉\n「\n」\n『\n』"]⟩,
  ⟨0xfe49, [" \u0305\n \u0305\n \u0305\n \u0305\n_\n_\n_\n,\n、\n."]⟩,
  ⟨0xfe54, [";\n:\n?\n!\n—\n(\n)\n\x7b\n\x7d\n〔\n〕\n#\n&\n*\n+\n-\n<\n>\n="]⟩,
  ⟨0xfe68, ["\\\n$\n%\n@"]⟩,
  ⟨0xfe70, [" \u064b\n\u0640\u064b\n \u064c"]⟩,
  ⟨0xfe74, [" \u064d"]⟩,
  ⟨0xfe76, [" \u064e\n\u0640\u064e\n \u064f\n\u0640\u064f\n \u0650\n\u0640\u0650\n \u0651",
    "\u0640\u0651\n \u0652\n\u0640\u0652\n\u0621\n\u0627\u0653\n\u0627\u0653\n\u0627\u0654",
    "\u0627\u0654\n\u0648\u0654\n\u0648\u0654\n\u0627\u0655\n\u0627\u0655\n\u064a\u0654",
    "\u064a\u0654\n\u064a\u0654\n\u064a\u0654\n\u0627\n\u0627\n\u0628\n\u0628\n\u0628\n\u0628",
    "\u0629\n\u0629\n\u062a\n\u062a\n\u062a\n\u062a\n\u062b\n\u062b\n\u062b\n\u062b\n\u062c",
    "\u062c\n\u062c\n\u062c\n\u062d\n\u062d\n\u062d\n\u062d\n\u062e\n\u062e\n\u062e\n\u062e",
    "\u062f\n\u062f\n\u0630\n\u0630\n\u0631\n\u0631\n\u0632\n\u0632\n\u0633\n\u0633\n\u0633",
    "\u0633\n\u0634\n\u0634\n\u0634\n\u0634\n\u0635\n\u0635\n\u0635\n\u0635\n\u0636\n\u0636",
    "\u0636\n\u0636\n\u0637\n\u0637\n\u0637\n\u0637\n\u0638\n\u0638\n\u0638\n\u0638\n\u0639",
    "\u0639\n\u0639\n\u0639\n\u063a\n\u063a\n\u063a\n\u063a\n\u0641\n\u0641\n\u0641\n\u0641",
    "\u0642\n\u0642\n\u0642\n\u0642\n\u0643\n\u0643\n\u0643\n\u0643\n\u0644\n\u0644\n\u0644",
    "\u0644\n\u0645\n\u0645\n\u0645\n\u0645\n\u0646\n\u0646\n\u0646\n\u0646\n\u0647\n\u0647",
    "\u0647\n\u0647\n\u0648\n\u0648\n\u0649\n\u0649\n\u064a\n\u064a\n\u064a\n\u064a",
    "\u0644\u0627\u0653\n\u0644\u0627\u0653\n\u0644\u0627\u0654\n\u0644\u0627\u0654",
    "\u0644\u0627\u0655\n\u0644\u0627\u0655\n\u0644\u0627\n\u0644\u0627"]⟩,
  ⟨0xff01, ["!\n\"\n#\n$\n%\n&\n'\n(\n)\n*\n+\n,\n-\n.\n/\n0\n1\n2\n3\n4\n5\n6\n7\n8\n9\n:\n;",
    "<\n=\n>\n?\n@\nA\nB\nC\nD\nE\nF\nG\nH\nI\nJ\nK\nL\nM\nN\nO\nP\nQ\nR\nS\nT\nU\nV\nW\nX\nY",
    "Z\n[\n\\\n]\n^\n_\n`\na\nb\nc\nd\ne\nf\ng\nh\ni\nj\nk\nl\nm\nn\no\np\nq\nr\ns\nt\nu\nv",
    "w\nx\ny\nz\n\x7b\n|\n\x7d\n~\n⦅\n⦆\n。\n「\n」\n、\n・\nヲ\nァ\nィ\nゥ\nェ\nォ\nャ\nュ\nョ\nッ\nー\nア\nイ",
    "ウ\nエ\nオ\nカ\nキ\nク\nケ\nコ\nサ\nシ\nス\nセ\nソ\nタ\nチ\nツ\nテ\nト\nナ\nニ\nヌ\nネ\nノ\nハ\nヒ\nフ\nヘ\nホ\nマ\nミ",
    "ム\nメ\nモ\nヤ\nユ\nヨ\nラ\nリ\nル\nレ\nロ\nワ\nン\n\u3099\n\u309a\n\u1160\n\u1100\n\u1101\n\u11aa",
    "\u1102\n\u11ac\n\u11ad\n\u1103\n\u1104\n\u1105\n\u11b0\n\u11b1\n\u11b2\n\u11b3\n\u11b4",
    "\u11b5\n\u111a\n\u1106\n\u1107\n\u1108\n\u1121\n\u1109\n\u110a\n\u110b\n\u110c\n\u110d",
    "\u110e\n\u110f\n\u1110\n\u1111\n\u1112"]⟩,
  ⟨0xffc2, ["\u1161\n\u1162\n\u1163\n\u1164\n\u1165\n\u1166"]⟩,
  ⟨0xffca, ["\u1167\n\u1168\n\u1169\n\u116a\n\u116b\n\u116c"]⟩,
  ⟨0xffd2, ["\u116d\n\u116e\n\u116f\n\u1170\n\u1171\n\u1172"]⟩,
  ⟨0xffda, ["\u1173\n\u1174\n\u1175"]⟩,
  ⟨0xffe0, ["¢\n£\n¬\n \u0304\n¦\n¥\n₩"]⟩,
  ⟨0xffe8, ["│\n←\n↑\n→\n↓\n■\n○"]⟩,
  ⟨0x1d15e, ["𝅗𝅥\n𝅘𝅥\n𝅘𝅥𝅮\n𝅘𝅥𝅯\n𝅘𝅥𝅰\n𝅘𝅥𝅱\n𝅘𝅥𝅲"]⟩,
  ⟨0x1d1bb, ["𝆹𝅥\n𝆺𝅥\n𝆹𝅥𝅮\n𝆺𝅥𝅮\n𝆹𝅥𝅯\n𝆺𝅥𝅯"]⟩,
  ⟨0x1d400, ["A\nB\nC\nD\nE\nF\nG\nH\nI\nJ\nK\nL\nM\nN\nO\nP\nQ\nR\nS\nT\nU\nV\nW\nX\nY\nZ\na",
    "b\nc\nd\ne\nf\ng\nh\ni\nj\nk\nl\nm\nn\no\np\nq\nr\ns\nt\nu\nv\nw\nx\ny\nz\nA\nB\nC\nD\nE",
    "F\nG\nH\nI\nJ\nK\nL\nM\nN\nO\nP\nQ\nR\nS\nT\nU\nV\nW\nX\nY\nZ\na\nb\nc\nd\ne\nf\ng"]⟩,
  ⟨0x1d456, ["i\nj\nk\nl\nm\nn\no\np\nq\nr\ns\nt\nu\nv\nw\nx\ny\nz\nA\nB\nC\nD\nE\nF\nG\nH\nI",
    "J\nK\nL\nM\nN\nO\nP\nQ\nR\nS\nT\nU\nV\nW\nX\nY\nZ\na\nb\nc\nd\ne\nf\ng\nh\ni\nj\nk\nl\nm",
    "n\no\np\nq\nr\ns\nt\nu\nv\nw\nx\ny\nz\nA"]⟩,
  ⟨0x1d49e, ["C\nD"]⟩,
  ⟨0x1d4a2, ["G"]⟩,
  ⟨0x1d4a5, ["J\nK"]⟩,
  ⟨0x1d4a9, ["N\nO\nP\nQ"]⟩,
  ⟨0x1d4ae, ["S\nT\nU\nV\nW\nX\nY\nZ\na\nb\nc\nd"]⟩,
  ⟨0x1d4bb, ["f"]⟩,
  ⟨0x1d4bd, ["h\ni\nj\nk"]⟩,
  ⟨0x1d4c2, ["m\nn"]⟩,
  ⟨0x1d4c5, ["p\nq\nr\ns\nt\nu\nv\nw\nx\ny\nz\nA\nB\nC\nD\nE\nF\nG\nH\nI\nJ\nK\nL\nM\nN\nO\nP",
    "Q\nR\nS\nT\nU\nV\nW\nX\nY\nZ\na\nb\nc\nd\ne\nf\ng\nh\ni\nj\nk\nl\nm\nn\no\np\nq\nr\ns\nt",
    "u\nv\nw\nx\ny\nz\nA\nB"]⟩,
  ⟨0x1d507, ["D\nE\nF\nG"]⟩,
  ⟨0x1d50d, ["J\nK\nL\nM\nN\nO\nP\nQ"]⟩,
  ⟨0x1d516, ["S\nT\nU\nV\nW\nX\nY"]⟩,
  ⟨0x1d51e, ["a\nb\nc\nd\ne\nf\ng\nh\ni\nj\nk\nl\nm\nn\no\np\nq\nr\ns\nt\nu\nv\nw\nx\ny\nz\nA",
    "B"]⟩,
  ⟨0x1d53b, ["D\nE\nF\nG"]⟩,
  ⟨0x1d540, ["I\nJ\nK\nL\nM"]⟩,
  ⟨0x1d546, ["O"]⟩,
  ⟨0x1d54a, ["S\nT\nU\nV\nW\nX\nY"]⟩,
  ⟨0x1d552, ["a\nb\nc\nd\ne\nf\ng\nh\ni\nj\nk\nl\nm\nn\no\np\nq\nr\ns\nt\nu\nv\nw\nx\ny\nz\nA",
    "B\nC\nD\nE\nF\nG\nH\nI\nJ\nK\nL\nM\nN\nO\nP\nQ\nR\nS\nT\nU\nV\nW\nX\nY\nZ\na\nb\nc\nd\ne",
    "f\ng\nh\ni\nj\nk\nl\nm\nn\no\np\nq\nr\ns\nt\nu\nv\nw\nx\ny\nz\nA\nB\nC\nD\nE\nF\nG\nH\nI",
    "J\nK\nL\nM\nN\nO\nP\nQ\nR\nS\nT\nU\nV\nW\nX\nY\nZ\na\nb\nc\nd\ne\nf\ng\nh\ni\nj\nk\nl\nm",
    "n\no\np\nq\nr\ns\nt\nu\nv\nw\nx\ny\nz\nA\nB\nC\nD\nE\nF\nG\nH\nI\nJ\nK\nL\nM\nN\nO\nP\nQ",
    "R\nS\nT\nU\nV\nW\nX\nY\nZ\na\nb\nc\nd\ne\nf\ng\nh\ni\nj\nk\nl\nm\nn\no\np\nq\nr\ns\nt\nu",
    "v\nw\nx\ny\nz\nA\nB\nC\nD\nE\nF\nG\nH\nI\nJ\nK\nL\nM\nN\nO\nP\nQ\nR\nS\nT\nU\nV\nW\nX\nY",
    "Z\na\nb\nc\nd\ne\nf\ng\nh\ni\nj\nk\nl\nm\nn\no\np\nq\nr\ns\nt\nu\nv\nw\nx\ny\nz\nA\nB\nC",
    "D\nE\nF\nG\nH\nI\nJ\nK\nL\nM\nN\nO\nP\nQ\nR\nS\nT\nU\nV\nW\nX\nY\nZ\na\nb\nc\nd\ne\nf\ng",
    "h\ni\nj\nk\nl\nm\nn\no\np\nq\nr\ns\nt\nu\nv\nw\nx\ny\nz\nA\nB\nC\nD\nE\nF\nG\nH\nI\nJ\nK",
    "L\nM\nN\nO\nP\nQ\nR\nS\nT\nU\nV\nW\nX\nY\nZ\na\nb\nc\nd\ne\nf\ng\nh\ni\nj\nk\nl\nm\nn\no",
    "p\nq\nr\ns\nt\nu\nv\nw\nx\ny\nz"]⟩,
  ⟨0x1d6a8, ["Α\nΒ\nΓ\nΔ\nΕ\nΖ\nΗ\nΘ\nΙ\nΚ\nΛ\nΜ\nΝ\nΞ\nΟ\nΠ\nΡ\nΘ\nΣ\nΤ\nΥ\nΦ\nΧ\nΨ\nΩ\n∇\nα",
    "β\nγ\nδ\nε\nζ\nη\nθ\nι\nκ\nλ\nμ\nν\nξ\nο\nπ\nρ\nς\nσ\nτ\nυ\nφ\nχ\nψ\nω\n∂\nε\nθ\nκ\nφ\nρ",
    "π\nΑ\nΒ\nΓ\nΔ\nΕ\nΖ\nΗ\nΘ\nΙ\nΚ\nΛ\nΜ\nΝ\nΞ\nΟ\nΠ\nΡ\nΘ\nΣ\nΤ\nΥ\nΦ\nΧ\nΨ\nΩ\n∇\nα\nβ\nγ",
    "δ\nε\nζ\nη\nθ\nι\nκ\nλ\nμ\nν\nξ\nο\nπ\nρ\nς\nσ\nτ\nυ\nφ\nχ\nψ\nω\n∂\nε\nθ\nκ\nφ\nρ\nπ\nΑ",
    "Β\nΓ\nΔ\nΕ\nΖ\nΗ\nΘ\nΙ\nΚ\nΛ\nΜ\nΝ\nΞ\nΟ\nΠ\nΡ\nΘ\nΣ\nΤ\nΥ\nΦ\nΧ\nΨ\nΩ\n∇\nα\nβ\nγ\nδ\nε",
    "ζ\nη\nθ\nι\nκ\nλ\nμ\nν\nξ\nο\nπ\nρ\nς\nσ\nτ\nυ\nφ\nχ\nψ\nω\n∂\nε\nθ\nκ\nφ\nρ\nπ\nΑ\nΒ\nΓ",
    "Δ\nΕ\nΖ\nΗ\nΘ\nΙ\nΚ\nΛ\nΜ\nΝ\nΞ\nΟ\nΠ\nΡ\nΘ\nΣ\nΤ\nΥ\nΦ\nΧ\nΨ\nΩ\n∇\nα\nβ\nγ\nδ\nε\nζ\nη",
    "θ\nι\nκ\nλ\nμ\nν\nξ\nο\nπ\nρ\nς\nσ\nτ\nυ\nφ\nχ\nψ\nω\n∂\nε\nθ\nκ\nφ\nρ\nπ\nΑ\nΒ\nΓ\nΔ\nΕ",
    "Ζ\nΗ\nΘ\nΙ\nΚ\nΛ\nΜ\nΝ\nΞ\nΟ\nΠ\nΡ\nΘ\nΣ\nΤ\nΥ\nΦ\nΧ\nΨ\nΩ\n∇\nα\nβ\nγ\nδ\nε\nζ\nη\nθ\nι",
    "κ\nλ\nμ\nν\nξ\nο\nπ\nρ\nς\nσ\nτ\nυ\nφ\nχ\nψ\nω\n∂\nε\nθ\nκ\nφ\nρ\nπ"]⟩,
  ⟨0x1d7ce, ["0\n1\n2\n3\n4\n5\n6\n7\n8\n9\n0\n1\n2\n3\n4\n5\n6\n7\n8\n9\n0\n1\n2\n3\n4\n5\n6",
    "7\n8\n9\n0\n1\n2\n3\n4\n5\n6\n7\n8\n9\n0\n1\n2\n3\n4\n5\n6\n7\n8\n9"]⟩,
  ⟨0x2f800, ["丽\n丸\n乁\n𠄢\n你\n侮\n侻\n倂\n偺\n備\n僧\n像\n㒞\n𠘺\n免\n兔\n兤\n具\n𠔜\n㒹\n內\n再\n𠕋\n冗\n冤\n仌\n冬",
    "况\n𩇟\n凵\n刃\n㓟\n刻\n剆\n割\n剷\n㔕\n勇\n勉\n勤\n勺\n包\n匆\n北\n卉\n卑\n博\n即\n卽\n卿\n卿\n卿\n𠨬\n灰\n及\n叟\n𠭣",
    "叫\n叱\n吆\n咞\n吸\n呈\n周\n咢\n哶\n唐\n啓\n啣\n善\n善\n喙\n喫\n喳\n嗂\n圖\n嘆\n圗\n噑\n噴\n切\n壮\n城\n埴\n堍\n型\n堲",
    "報\n墬\n𡓤\n売\n壷\n夆\n多\n夢\n奢\n𡚨\n𡛪\n姬\n娛\n娧\n姘\n婦\n㛮\n𡍪\n嬈\n嬾\n嬾\n𡧈\n寃\n寘\n寧\n寳\n𡬘\n寿\n将\n弳",
    "尢\n㞁\n屠\n屮\n峀\n岍\n𡷤\n嵃\n𡷦\n嵮\n嵫\n嵼\n巡\n巢\n㠯\n巽\n帨\n帽\n幩\n㡢\n𢆃\n㡼\n庰\n庳\n庶\n廊\n𪎒\n廾\n𢌱\n𢌱",
    "舁\n弢\n弢\n㣇\n𣊸\n𦇚\n形\n彫\n㣣\n徚\n忍\n志\n忹\n悁\n㤺\n㤜\n悔\n𢛔\n惇\n慈\n慌\n慎\n慌\n慺\n憎\n憲\n憤\n憯\n懞\n懲",
    "懶\n成\n戛\n扝\n抱\n拔\n捐\n𢬌\n挽\n拼\n捨\n掃\n揤\n𢯱\n搢\n揅\n掩\n㨮\n摩\n摾\n撝\n摷\n㩬\n敏\n敬\n𣀊\n旣\n書\n晉\n㬙",
    "暑\n㬈\n㫤\n冒\n冕\n最\n暜\n肭\n䏙\n朗\n望\n朡\n杞\n杓\n𣏃\n㭉\n柺\n枅\n桒\n梅\n𣑭\n梎\n栟\n椔\n㮝\n楂\n榣\n槪\n檨\n𣚣",
    "櫛\n㰘\n次\n𣢧\n歔\n㱎\n歲\n殟\n殺\n殻\n𣪍\n𡴋\n𣫺\n汎\n𣲼\n沿\n泍\n汧\n洖\n派\n海\n流\n浩\n浸\n涅\n𣴞\n洴\n港\n湮\n㴳",
    "滋\n滇\n𣻑\n淹\n潮\n𣽞\n𣾎\n濆\n瀹\n瀞\n瀛\n㶖\n灊\n災\n灷\n炭\n𠔥\n煅\n𤉣\n熜\n䎫\n爨\n爵\n牐\n𤘈\n犀\n犕\n𤜵\n𤠔\n獺",
    "王\n㺬\n玥\n㺸\n㺸\n瑇\n瑜\n瑱\n璅\n瓊\n㼛\n甤\n𤰶\n甾\n𤲒\n異\n𢆟\n瘐\n𤾡\n𤾸\n𥁄\n㿼\n䀈\n直\n𥃳\n𥃲\n𥄙\n𥄳\n眞\n真",
    "真\n睊\n䀹\n瞋\n䁆\n䂖\n𥐝\n硎\n碌\n磌\n䃣\n𥘦\n祖\n𥚚\n𥛅\n福\n秫\n䄯\n穀\n穊\n穏\n𥥼\n𥪧\n𥪧\n窮\n䈂\n𥮫\n篆\n築\n䈧",
    "𥲀\n糒\n䊠\n糨\n糣\n紀\n𥾆\n絣\n䌁\n緇\n縂\n繅\n䌴\n𦈨\n𦉇\n䍙\n𦋙\n罺\n𦌾\n羕\n翺\n者\n𦓚\n𦔣\n聠\n𦖨\n聰\n𣍟\n䏕\n育",
    "脃\n䐋\n脾\n媵\n𦞧\n𦞵\n𣎓\n𣎜\n舁\n舄\n辞\n䑫\n芑\n芋\n芝\n劳\n花\n芳\n芽\n苦\n𦬼\n若\n茝\n荣\n莭\n茣\n莽\n菧\n著\n荓",
    "菊\n菌\n菜\n𦰶\n𦵫\n𦳕\n䔫\n蓱\n蓳\n蔖\n𧏊\n蕤\n𦼬\n䕝\n䕡\n𦾱\n𧃒\n䕫\n虐\n虜\n虧\n虩\n蚩\n蚈\n蜎\n蛢\n蝹\n蜨\n蝫\n螆",
    "䵗\n蟡\n蠁\n䗹\n衠\n衣\n𧙧\n裗\n裞\n䘵\n裺\n㒻\n𧢮\n𧥦\n䚾\n䛇\n誠\n諭\n變\n豕\n𧲨\n貫\n賁\n贛\n起\n𧼯\n𠠄\n跋\n趼\n跰",
    "𠣞\n軔\n輸\n𨗒\n𨗭\n邔\n郱\n鄑\n𨜮\n鄛\n鈸\n鋗\n鋘\n鉼\n鏹\n鐕\n𨯺\n開\n䦕\n閷\n𨵷\n䧦\n雃\n嶲\n霣\n𩅅\n𩈚\n䩮\n䩶\n韠",
    "𩐊\n䪲\n𩒖\n頋\n頋\n頩\n𩖶\n飢\n䬳\n餩\n馧\n駂\n駾\n䯎\n𩬰\n鬒\n鱀\n鳽\n䳎\n䳭\n鵧\n𪃎\n䳸\n𪄅\n𪈎\n𪊑\n麻\n䵖\n黹\n黾",
    "鼅\n鼏\n鼖\n鼻\n𪘀"]⟩]

end Telematics.Text
